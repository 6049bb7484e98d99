/-
# Dates and times in locales

How dates and times are written in a locale: the patterns of the four styles, and the
names of months and days. A locale without data of its own has those of its language, and
a language without data has those of English. The long styles of times, which would show
a time zone, are the same as the medium style.
-/

import Phrasebook.Cldr.DatePattern
import Phrasebook.Cldr.Known

namespace Phrasebook
namespace Cldr

/-- How much of a date or a time is written. -/
inductive CalendarLength where
  | short
  | medium
  | long
  | full
  deriving DecidableEq

/-- How dates and times are written. -/
structure CalendarStyle where
  shortDate : String
  mediumDate : String
  longDate : String
  fullDate : String
  shortTime : String
  mediumTime : String
  names : CalendarNames

namespace CalendarLength

/-- The word for a length. -/
def name : CalendarLength → String
  | short => "short"
  | medium => "medium"
  | long => "long"
  | full => "full"

/-- The length that a word stands for. -/
def ofName? (s : String) : Option CalendarLength := [short, medium, long, full].find? (·.name == s)

end CalendarLength

namespace CalendarStyle

/-- The pattern for dates of a length. -/
def datePattern (style : CalendarStyle) : CalendarLength → String
  | .short => style.shortDate
  | .medium => style.mediumDate
  | .long => style.longDate
  | .full => style.fullDate

/-- The pattern for times of a length. -/
def timePattern (style : CalendarStyle) : CalendarLength → String
  | .short => style.shortTime
  | .medium => style.mediumTime
  | .long => style.mediumTime
  | .full => style.mediumTime

/-- The calendar of German. -/
def german : CalendarStyle where
  shortDate := "dd.MM.yy"
  mediumDate := "dd.MM.y"
  longDate := "d. MMMM y"
  fullDate := "EEEE, d. MMMM y"
  shortTime := "HH:mm"
  mediumTime := "HH:mm:ss"
  names := {
    months :=
      ["Januar", "Februar", "März", "April", "Mai", "Juni", "Juli", "August", "September",
       "Oktober", "November", "Dezember"]
    monthsShort :=
      ["Jan.", "Feb.", "März", "Apr.", "Mai", "Juni", "Juli", "Aug.", "Sept.", "Okt.", "Nov.",
       "Dez."]
    weekdays :=
      ["Montag", "Dienstag", "Mittwoch", "Donnerstag", "Freitag", "Samstag", "Sonntag"]
    weekdaysShort :=
      ["Mo.", "Di.", "Mi.", "Do.", "Fr.", "Sa.", "So."]
    dayPeriods := ("AM", "PM") }

/-- The calendar of English. -/
def english : CalendarStyle where
  shortDate := "M/d/yy"
  mediumDate := "MMM d, y"
  longDate := "MMMM d, y"
  fullDate := "EEEE, MMMM d, y"
  shortTime := "h:mm\u202fa"
  mediumTime := "h:mm:ss\u202fa"
  names := {
    months :=
      ["January", "February", "March", "April", "May", "June", "July", "August", "September",
       "October", "November", "December"]
    monthsShort :=
      ["Jan", "Feb", "Mar", "Apr", "May", "Jun", "Jul", "Aug", "Sep", "Oct", "Nov", "Dec"]
    weekdays :=
      ["Monday", "Tuesday", "Wednesday", "Thursday", "Friday", "Saturday", "Sunday"]
    weekdaysShort :=
      ["Mon", "Tue", "Wed", "Thu", "Fri", "Sat", "Sun"]
    dayPeriods := ("AM", "PM") }

/-- The calendar of British English. -/
def british : CalendarStyle where
  shortDate := "dd/MM/y"
  mediumDate := "d MMM y"
  longDate := "d MMMM y"
  fullDate := "EEEE, d MMMM y"
  shortTime := "HH:mm"
  mediumTime := "HH:mm:ss"
  names := {
    months :=
      ["January", "February", "March", "April", "May", "June", "July", "August", "September",
       "October", "November", "December"]
    monthsShort :=
      ["Jan", "Feb", "Mar", "Apr", "May", "Jun", "Jul", "Aug", "Sept", "Oct", "Nov", "Dec"]
    weekdays :=
      ["Monday", "Tuesday", "Wednesday", "Thursday", "Friday", "Saturday", "Sunday"]
    weekdaysShort :=
      ["Mon", "Tue", "Wed", "Thu", "Fri", "Sat", "Sun"]
    dayPeriods := ("am", "pm") }

/-- The calendar of Spanish. -/
def spanish : CalendarStyle where
  shortDate := "d/M/yy"
  mediumDate := "d MMM y"
  longDate := "d 'de' MMMM 'de' y"
  fullDate := "EEEE, d 'de' MMMM 'de' y"
  shortTime := "H:mm"
  mediumTime := "H:mm:ss"
  names := {
    months :=
      ["enero", "febrero", "marzo", "abril", "mayo", "junio", "julio", "agosto", "septiembre",
       "octubre", "noviembre", "diciembre"]
    monthsShort :=
      ["ene", "feb", "mar", "abr", "may", "jun", "jul", "ago", "sept", "oct", "nov", "dic"]
    weekdays :=
      ["lunes", "martes", "miércoles", "jueves", "viernes", "sábado", "domingo"]
    weekdaysShort :=
      ["lun", "mar", "mié", "jue", "vie", "sáb", "dom"]
    dayPeriods := ("AM", "PM") }

/-- The calendar of French. -/
def french : CalendarStyle where
  shortDate := "dd/MM/y"
  mediumDate := "d MMM y"
  longDate := "d MMMM y"
  fullDate := "EEEE d MMMM y"
  shortTime := "HH:mm"
  mediumTime := "HH:mm:ss"
  names := {
    months :=
      ["janvier", "février", "mars", "avril", "mai", "juin", "juillet", "août", "septembre",
       "octobre", "novembre", "décembre"]
    monthsShort :=
      ["janv.", "févr.", "mars", "avr.", "mai", "juin", "juil.", "août", "sept.", "oct.", "nov.",
       "déc."]
    weekdays :=
      ["lundi", "mardi", "mercredi", "jeudi", "vendredi", "samedi", "dimanche"]
    weekdaysShort :=
      ["lun.", "mar.", "mer.", "jeu.", "ven.", "sam.", "dim."]
    dayPeriods := ("AM", "PM") }

/-- The calendar of Hindi. -/
def hindi : CalendarStyle where
  shortDate := "d/M/yy"
  mediumDate := "d MMM y"
  longDate := "d MMMM y"
  fullDate := "EEEE, d MMMM y"
  shortTime := "h:mm a"
  mediumTime := "h:mm:ss a"
  names := {
    months :=
      ["जनवरी", "फ़रवरी", "मार्च", "अप्रैल", "मई", "जून", "जुलाई", "अगस्त", "सितंबर", "अक्टूबर",
       "नवंबर", "दिसंबर"]
    monthsShort :=
      ["जन॰", "फ़र॰", "मार्च", "अप्रैल", "मई", "जून", "जुल॰", "अग॰", "सित॰", "अक्टू॰", "नव॰",
       "दिस॰"]
    weekdays :=
      ["सोमवार", "मंगलवार", "बुधवार", "गुरुवार", "शुक्रवार", "शनिवार", "रविवार"]
    weekdaysShort :=
      ["सोम", "मंगल", "बुध", "गुरु", "शुक्र", "शनि", "रवि"]
    dayPeriods := ("am", "pm") }

/-- The calendar of Japanese. -/
def japanese : CalendarStyle where
  shortDate := "y/MM/dd"
  mediumDate := "y/MM/dd"
  longDate := "y年M月d日"
  fullDate := "y年M月d日EEEE"
  shortTime := "H:mm"
  mediumTime := "H:mm:ss"
  names := {
    months :=
      ["1月", "2月", "3月", "4月", "5月", "6月", "7月", "8月", "9月", "10月", "11月", "12月"]
    monthsShort :=
      ["1月", "2月", "3月", "4月", "5月", "6月", "7月", "8月", "9月", "10月", "11月", "12月"]
    weekdays :=
      ["月曜日", "火曜日", "水曜日", "木曜日", "金曜日", "土曜日", "日曜日"]
    weekdaysShort :=
      ["月", "火", "水", "木", "金", "土", "日"]
    dayPeriods := ("AM", "PM") }

/-- The calendar of Latvian. -/
def latvian : CalendarStyle where
  shortDate := "dd.MM.yy"
  mediumDate := "y. 'gada' d. MMM"
  longDate := "y. 'gada' d. MMMM"
  fullDate := "EEEE, y. 'gada' d. MMMM"
  shortTime := "HH:mm"
  mediumTime := "HH:mm:ss"
  names := {
    months :=
      ["janvāris", "februāris", "marts", "aprīlis", "maijs", "jūnijs", "jūlijs", "augusts",
       "septembris", "oktobris", "novembris", "decembris"]
    monthsShort :=
      ["janv.", "febr.", "marts", "apr.", "maijs", "jūn.", "jūl.", "aug.", "sept.", "okt.", "nov.",
       "dec."]
    weekdays :=
      ["pirmdiena", "otrdiena", "trešdiena", "ceturtdiena", "piektdiena", "sestdiena", "svētdiena"]
    weekdaysShort :=
      ["pirmd.", "otrd.", "trešd.", "ceturtd.", "piektd.", "sestd.", "svētd."]
    dayPeriods := ("AM", "PM") }

/-- The calendar of Polish. -/
def polish : CalendarStyle where
  shortDate := "d.MM.y"
  mediumDate := "d MMM y"
  longDate := "d MMMM y"
  fullDate := "EEEE, d MMMM y"
  shortTime := "HH:mm"
  mediumTime := "HH:mm:ss"
  names := {
    months :=
      ["stycznia", "lutego", "marca", "kwietnia", "maja", "czerwca", "lipca", "sierpnia",
       "września", "października", "listopada", "grudnia"]
    monthsShort :=
      ["sty", "lut", "mar", "kwi", "maj", "cze", "lip", "sie", "wrz", "paź", "lis", "gru"]
    weekdays :=
      ["poniedziałek", "wtorek", "środa", "czwartek", "piątek", "sobota", "niedziela"]
    weekdaysShort :=
      ["pon.", "wt.", "śr.", "czw.", "pt.", "sob.", "niedz."]
    dayPeriods := ("AM", "PM") }

/-- The calendars by locale. -/
def table : List (String × CalendarStyle) := [
    ("de", german),
    ("en", english),
    ("en_GB", british),
    ("es", spanish),
    ("fr", french),
    ("hi", hindi),
    ("ja", japanese),
    ("lv", latvian),
    ("pl", polish)]

/-- How dates and times are written in a locale. -/
def ofLocale (id : LocaleId) : CalendarStyle := (id.lineage.findSome? (table.lookup ·)).getD english

end CalendarStyle
end Cldr
end Phrasebook
