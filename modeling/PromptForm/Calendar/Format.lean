import PromptForm.Calendar.Instant

/-!
# Date formats

A format is text with fields marked by percent signs: `%Y` is the year, `%H` the hour, and so on. A mark
may say how a number is padded (`%-d`, `%_d`, `%0d`). A format with a mark that is not known is no
format at all.
-/

namespace PromptForm.Calendar

/-- How a number is filled up to its width. -/
inductive Padding where
  | none
  | zero
  | blank
deriving DecidableEq, Repr

/-- Fields that are numbers. -/
inductive NumberField where
  | year | century | yearOfCentury | isoYear | isoYearOfCentury | quarter | month | day
  | weekFromSunday | weekFromMonday | isoWeek | daysFromSunday | dayFromMonday | ordinal
  | hour | hourOfTwelve | minute | second | nanosecond | timestamp
deriving DecidableEq, Repr

/-- Fields that are words or have a layout of their own. -/
inductive TextField where
  | shortMonth | longMonth | shortWeekday | longWeekday | lowerHalf | upperHalf
  | fraction
  | fractionDigits (count : Nat) (point : Bool)
  | zone
  | offset (separator : String) (parts : Nat)
  | fullInstant
deriving DecidableEq, Repr

inductive FormatItem where
  | literal (text : String)
  | number (field : NumberField) (padding : Padding)
  | text (field : TextField)
deriving DecidableEq, Repr

namespace FormatItem

def zero (f : NumberField) : FormatItem := .number f .zero

/-- The month, day and year of the century with slashes. -/
def slashDate : List FormatItem :=
  [zero .month, .literal "/", zero .day, .literal "/", zero .yearOfCentury]

def clock : List FormatItem := [zero .hour, .literal ":", zero .minute, .literal ":", zero .second]

/-- The items that a mark stands for. -/
def ofMark? : Char → Option (List FormatItem)
  | 'A' => some [.text .longWeekday]
  | 'B' => some [.text .longMonth]
  | 'C' => some [zero .century]
  | 'D' => some slashDate
  | 'F' => some [zero .year, .literal "-", zero .month, .literal "-", zero .day]
  | 'G' => some [zero .isoYear]
  | 'H' => some [zero .hour]
  | 'I' => some [zero .hourOfTwelve]
  | 'M' => some [zero .minute]
  | 'P' => some [.text .lowerHalf]
  | 'R' => some [zero .hour, .literal ":", zero .minute]
  | 'S' => some [zero .second]
  | 'T' => some clock
  | 'U' => some [zero .weekFromSunday]
  | 'V' => some [zero .isoWeek]
  | 'W' => some [zero .weekFromMonday]
  | 'X' => some clock
  | 'Y' => some [zero .year]
  | 'Z' => some [.text .zone]
  | 'a' => some [.text .shortWeekday]
  | 'b' => some [.text .shortMonth]
  | 'c' => some ([.text .shortWeekday, .literal " ", .text .shortMonth, .literal " ",
      .number .day .blank, .literal " "] ++ clock ++ [.literal " ", zero .year])
  | 'd' => some [zero .day]
  | 'e' => some [.number .day .blank]
  | 'f' => some [zero .nanosecond]
  | 'g' => some [zero .isoYearOfCentury]
  | 'h' => some [.text .shortMonth]
  | 'j' => some [zero .ordinal]
  | 'k' => some [.number .hour .blank]
  | 'l' => some [.number .hourOfTwelve .blank]
  | 'm' => some [zero .month]
  | 'n' => some [.literal "\n"]
  | 'p' => some [.text .upperHalf]
  | 'q' => some [.number .quarter .none]
  | 'r' => some [zero .hourOfTwelve, .literal ":", zero .minute, .literal ":", zero .second,
      .literal " ", .text .upperHalf]
  | 's' => some [.number .timestamp .none]
  | 't' => some [.literal "\t"]
  | 'u' => some [.number .dayFromMonday .none]
  | 'v' => some [.number .day .blank, .literal "-", .text .shortMonth, .literal "-", zero .year]
  | 'w' => some [.number .daysFromSunday .none]
  | 'x' => some slashDate
  | 'y' => some [zero .yearOfCentury]
  | 'z' => some [.text (.offset "" 2)]
  | '+' => some [.text .fullInstant]
  | '%' => some [.literal "%"]
  | _ => none

/-- A single number with another padding; nothing else can be padded. -/
def withPadding? (padding : Padding) : List FormatItem → Option (List FormatItem)
  | [.number f _] => some [.number f padding]
  | _ => none

/-- The items of the mark at the front, after its percent sign, and the rest. -/
def takeMark? : List Char → Option (List FormatItem × List Char)
  | '-' :: c :: cs => ((ofMark? c).bind (withPadding? .none)).map (·, cs)
  | '0' :: c :: cs => ((ofMark? c).bind (withPadding? .zero)).map (·, cs)
  | '_' :: c :: cs => ((ofMark? c).bind (withPadding? .blank)).map (·, cs)
  | '.' :: 'f' :: cs => some ([.text .fraction], cs)
  | '.' :: '3' :: 'f' :: cs => some ([.text (.fractionDigits 3 true)], cs)
  | '.' :: '6' :: 'f' :: cs => some ([.text (.fractionDigits 6 true)], cs)
  | '.' :: '9' :: 'f' :: cs => some ([.text (.fractionDigits 9 true)], cs)
  | '3' :: 'f' :: cs => some ([.text (.fractionDigits 3 false)], cs)
  | '6' :: 'f' :: cs => some ([.text (.fractionDigits 6 false)], cs)
  | '9' :: 'f' :: cs => some ([.text (.fractionDigits 9 false)], cs)
  | ':' :: 'z' :: cs => some ([.text (.offset ":" 2)], cs)
  | ':' :: ':' :: 'z' :: cs => some ([.text (.offset ":" 3)], cs)
  | ':' :: ':' :: ':' :: 'z' :: cs => some ([.text (.offset ":" 1)], cs)
  | c :: cs => (ofMark? c).map (·, cs)
  | [] => none

/-- The items of a format; `fuel` bounds its characters. -/
def ofChars? : Nat → List Char → Option (List FormatItem)
  | _, [] => some []
  | 0, _ :: _ => none
  | fuel + 1, '%' :: cs => do
    let (items, rest) ← takeMark? cs
    let more ← ofChars? fuel rest
    some (items ++ more)
  | fuel + 1, c :: cs => do
    let more ← ofChars? fuel cs
    some (.literal (String.singleton c) :: more)

end FormatItem

def weekdayNames : List String :=
  ["Sunday", "Monday", "Tuesday", "Wednesday", "Thursday", "Friday", "Saturday"]

def monthNames : List String :=
  ["January", "February", "March", "April", "May", "June", "July", "August", "September", "October",
   "November", "December"]

/-- The first three letters. -/
def short (s : String) : String := String.ofList (s.toList.take 3)

namespace Instant

def hourOfTwelve (t : Instant) : Nat := if t.hour % 12 == 0 then 12 else t.hour % 12

/-- A number of one or two digits, filled up to two. -/
def two (n : Nat) : Padding → String
  | .none => toString n
  | .zero => padded 2 n
  | .blank => if n < 10 then " " ++ toString n else toString n

/-- A number filled up to a width; a sign counts and stands before zeros. -/
def wide (width : Nat) (n : Int) (padding : Padding) (plus : Bool) : String :=
  let sign := if n < 0 then "-" else if plus then "+" else ""
  let width := if plus then width + 1 else width
  let digits := toString n.natAbs
  let room := width - (sign.length + digits.length)
  match padding with
  | .none => sign ++ digits
  | .zero => sign ++ String.ofList (List.replicate room '0') ++ digits
  | .blank => String.ofList (List.replicate room ' ') ++ sign ++ digits

def year (y : Int) (padding : Padding) : String :=
  wide 4 y padding (y < 0 || 10000 ≤ y)

def numberText (t : Instant) (field : NumberField) (padding : Padding) : String :=
  let d := t.date
  match field with
  | .year => year d.year padding
  | .century => two (d.year.fdiv 100).toNat padding
  | .yearOfCentury => two (d.year.fmod 100).toNat padding
  | .isoYear => year d.isoYear padding
  | .isoYearOfCentury => two (d.isoYear.fmod 100).toNat padding
  | .quarter => toString ((d.month + 2) / 3)
  | .month => two d.month padding
  | .day => two d.day padding
  | .weekFromSunday => two (d.weekFrom d.fromSunday) padding
  | .weekFromMonday => two (d.weekFrom d.fromMonday) padding
  | .isoWeek => two d.isoWeek padding
  | .daysFromSunday => toString d.fromSunday
  | .dayFromMonday => toString (d.fromMonday + 1)
  | .ordinal => wide 3 d.ordinal padding false
  | .hour => two t.hour padding
  | .hourOfTwelve => two t.hourOfTwelve padding
  | .minute => two t.minute padding
  | .second => two t.second padding
  | .nanosecond => wide 9 t.fraction padding false
  | .timestamp => wide 9 t.seconds padding false

def fieldText (t : Instant) : TextField → String
  | .shortMonth => short (monthNames.getD (t.date.month - 1) "")
  | .longMonth => monthNames.getD (t.date.month - 1) ""
  | .shortWeekday => short (weekdayNames.getD t.date.fromSunday "")
  | .longWeekday => weekdayNames.getD t.date.fromSunday ""
  | .lowerHalf => if t.hour < 12 then "am" else "pm"
  | .upperHalf => if t.hour < 12 then "AM" else "PM"
  | .fraction => t.fractionText
  | .fractionDigits count point =>
    (if point then "." else "") ++ padded count (t.fraction / Number.tenTo (9 - count))
  | .zone => "UTC"
  | .offset separator parts => "+" ++ separator.intercalate (List.replicate parts "00")
  | .fullInstant => t.text

def itemText (t : Instant) : FormatItem → String
  | .literal s => s
  | .number field padding => t.numberText field padding
  | .text field => t.fieldText field

/-- The instant in a format, if it is one. -/
def format? (t : Instant) (format : String) : Option String :=
  (FormatItem.ofChars? format.toList.length format.toList).map fun items =>
    String.join (items.map t.itemText)

end Instant
end PromptForm.Calendar
