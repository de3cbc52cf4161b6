import StructuredMessage.Culture.Symbols
import StructuredMessage.Diagnostic
import StructuredMessage.Text.Character

namespace StructuredMessage

/-- A named set of symbols. -/
structure Culture where
  name : String
  numbers : NumberSymbols
  dates : DateSymbols
  deriving DecidableEq

namespace Culture

def invariant : Culture where
  name := ""
  numbers := {}
  dates := {}

def americanEnglish : Culture where
  name := "en-US"
  numbers := { percentSuffix := "%" }
  dates :=
    { shortDate := "M/d/yyyy"
      longDate := "dddd, MMMM d, yyyy"
      shortTime := "h:mm tt"
      longTime := "h:mm:ss tt"
      monthDay := "MMMM d"
      yearMonth := "MMMM yyyy" }

def britishEnglish : Culture where
  name := "en-GB"
  numbers := { percentSuffix := "%" }
  dates :=
    { shortDate := "dd/MM/yyyy"
      longDate := "dddd, d MMMM yyyy"
      monthDay := "d MMMM"
      yearMonth := "MMMM yyyy"
      morning := "am"
      afternoon := "pm" }

def french : Culture where
  name := "fr-FR"
  numbers :=
    { decimalSeparator := ","
      groupSeparator := "\u202f"
      percentSuffix := "\u00a0%"
      positiveInfinity := "∞"
      negativeInfinity := "-∞" }
  dates :=
    { shortDate := "dd/MM/yyyy"
      longDate := "dddd d MMMM yyyy"
      monthDay := "d MMMM"
      yearMonth := "MMMM yyyy"
      monthNames :=
        ["janvier", "février", "mars", "avril", "mai", "juin", "juillet", "août", "septembre",
         "octobre", "novembre", "décembre"]
      shortMonthNames :=
        ["janv.", "févr.", "mars", "avr.", "mai", "juin", "juil.", "août", "sept.", "oct.",
         "nov.", "déc."]
      dayNames := ["dimanche", "lundi", "mardi", "mercredi", "jeudi", "vendredi", "samedi"]
      shortDayNames := ["dim.", "lun.", "mar.", "mer.", "jeu.", "ven.", "sam."] }

def german : Culture where
  name := "de-DE"
  numbers :=
    { decimalSeparator := ","
      groupSeparator := "."
      percentSuffix := "\u00a0%"
      positiveInfinity := "∞"
      negativeInfinity := "-∞" }
  dates :=
    { shortDate := "dd.MM.yyyy"
      longDate := "dddd, d. MMMM yyyy"
      monthDay := "d. MMMM"
      yearMonth := "MMMM yyyy"
      dateSeparator := "."
      monthNames :=
        ["Januar", "Februar", "März", "April", "Mai", "Juni", "Juli", "August", "September",
         "Oktober", "November", "Dezember"]
      shortMonthNames :=
        ["Jan.", "Feb.", "März", "Apr.", "Mai", "Juni", "Juli", "Aug.", "Sept.", "Okt.", "Nov.",
         "Dez."]
      dayNames :=
        ["Sonntag", "Montag", "Dienstag", "Mittwoch", "Donnerstag", "Freitag", "Samstag"]
      shortDayNames := ["So.", "Mo.", "Di.", "Mi.", "Do.", "Fr.", "Sa."] }

/-- A name in the form that names are compared in: no blanks around it, hyphens for underscores and
small letters. -/
def comparable (name : String) : String :=
  Text.lowered (String.ofList ((Text.trimmed name).toList.map fun c => if c = '_' then '-' else c))

/-- The built-in culture of that name. A language alone means its main region, and no name at all the
culture-neutral symbols. -/
def named (name : String) : Except Error Culture :=
  match comparable name with
  | "" | "invariant" => .ok invariant
  | "en" | "en-us" => .ok americanEnglish
  | "en-gb" => .ok britishEnglish
  | "fr" | "fr-fr" => .ok french
  | "de" | "de-de" => .ok german
  | _ => .error (.unknownCulture name)

end Culture

end StructuredMessage
