namespace StructuredMessage

/-- What a culture writes into numbers. -/
structure NumberSymbols where
  decimalSeparator : String := "."
  groupSeparator : String := ","
  negativeSign : String := "-"
  /-- Written after a percentage, with the space in front where there is one. -/
  percentSuffix : String := " %"
  /-- Written for `%` in a pattern. -/
  percentSymbol : String := "%"
  nanSymbol : String := "NaN"
  positiveInfinity : String := "Infinity"
  negativeInfinity : String := "-Infinity"
  deriving DecidableEq

/-- What a culture writes into dates and times. The six patterns stand for the formats of one letter.
Names of months begin with January, names of days with Sunday. -/
structure DateSymbols where
  shortDate : String := "MM/dd/yyyy"
  longDate : String := "dddd, dd MMMM yyyy"
  shortTime : String := "HH:mm"
  longTime : String := "HH:mm:ss"
  monthDay : String := "MMMM dd"
  yearMonth : String := "yyyy MMMM"
  dateSeparator : String := "/"
  timeSeparator : String := ":"
  morning : String := "AM"
  afternoon : String := "PM"
  monthNames : List String :=
    ["January", "February", "March", "April", "May", "June", "July", "August", "September",
     "October", "November", "December"]
  shortMonthNames : List String :=
    ["Jan", "Feb", "Mar", "Apr", "May", "Jun", "Jul", "Aug", "Sep", "Oct", "Nov", "Dec"]
  dayNames : List String :=
    ["Sunday", "Monday", "Tuesday", "Wednesday", "Thursday", "Friday", "Saturday"]
  shortDayNames : List String := ["Sun", "Mon", "Tue", "Wed", "Thu", "Fri", "Sat"]
  deriving DecidableEq

end StructuredMessage
