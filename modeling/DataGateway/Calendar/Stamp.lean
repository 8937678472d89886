import DataGateway.Calendar.Date
import DataGateway.Number.Numeral
import DataGateway.Text.Utf8

/-!
# Time stamps

A moment written as a date and a time of day, with or without its distance from UTC, to the
microsecond.

* `Stamp.text` is the ISO 8601 form;
* `Stamp.parse?` reads that form and the other usual ones: with and without separators, with an ISO
  week, with any one character between date and time;
* `Stamp.instant` is the moment itself; a stamp without a distance from UTC is taken to be in UTC.
-/

namespace DataGateway.Calendar

/-- Microseconds of a second. -/
def second : Int := 1000000

/-- Microseconds of a day. -/
def day : Int := 86400 * second

/-- A moment: what a local clock says in microseconds from 1970, and its distance from UTC. -/
structure Stamp where
  clock : Int
  offset : Option Int
  deriving DecidableEq

namespace Stamp

def instant (stamp : Stamp) : Int := stamp.clock - stamp.offset.getD 0

def utc (instant : Int) : Stamp := ⟨instant, some 0⟩

/-- The last microsecond of the year 9999. -/
def lastClock : Int := (Date.toDays ⟨9999, 12, 31⟩ + 1) * day - 1

/-! ## Writing -/

/-- A number with leading zeros. -/
def padded (width : Nat) (n : Int) : List Char :=
  let digits := decimalDigits n.natAbs
  List.replicate (width - digits.length) '0' ++ digits

def fractionText (micros : Int) : List Char :=
  if micros == 0 then [] else '.' :: padded 6 micros

def offsetText (offset : Int) : List Char :=
  let size : Int := offset.natAbs
  let seconds := size / second
  let micros := size % second
  (if offset < 0 then '-' else '+') :: (padded 2 (seconds / 3600) ++
    ':' :: padded 2 (seconds / 60 % 60) ++
    (if seconds % 60 == 0 && micros == 0 then []
     else ':' :: padded 2 (seconds % 60) ++ fractionText micros))

def text (stamp : Stamp) : String :=
  let date := Date.ofDays (stamp.clock.fdiv day)
  let micros := stamp.clock.fmod day
  let seconds := micros / second
  String.ofList (
    padded 4 date.year ++ '-' :: padded 2 date.month ++ '-' :: padded 2 date.day ++
    'T' :: padded 2 (seconds / 3600) ++ ':' :: padded 2 (seconds / 60 % 60) ++
    ':' :: padded 2 (seconds % 60) ++ fractionText (micros % second) ++
    (match stamp.offset with
      | some offset => offsetText offset
      | none => []))

/-! ## Reading -/

/-- The character that stands for the end of a text. -/
def ending : Char := Char.ofNat 0

def charAt (s : List Char) (i : Nat) : Char := s.getD i ending

def digits? : Nat → List Char → Option (Nat × List Char)
  | count, s =>
    let run := s.take count
    if run.length == count && run.all Numeral.isDigit then
      some (Numeral.digitsValue run, s.drop count)
    else none

/-- The index at which the date ends and the character before the time stands. -/
def separatorIndex (s : List Char) : Nat :=
  if s.length == 7 then 7
  else if charAt s 4 == '-' then
    -- YYYY-Www, with or without a day behind another hyphen
    if charAt s 5 == 'W' then
      if 8 < s.length && charAt s 8 == '-' && !(10 < s.length && Numeral.isDigit (charAt s 10)) then 10
      else 8
    else 10
  else if charAt s 4 == 'W' then
    -- YYYYWww, with or without a day: the digits of the time are even in number
    let run := 7 + ((s.drop 7).takeWhile Numeral.isDigit).length
    if run < 9 then run else if run % 2 == 0 then 7 else 8
  else 8

/-- Reads a date that fills the text. -/
def date? (s : List Char) : Option Date := do
  let (year, rest) ← digits? 4 s
  -- one hyphen calls for the other
  let dashed := charAt rest 0 == '-'
  let rest := if dashed then rest.drop 1 else rest
  if charAt rest 0 == 'W' then
    let (week, rest) ← digits? 2 (rest.drop 1)
    if rest.isEmpty then Date.ofWeek? year week 1
    else
      if dashed && charAt rest 0 != '-' then none
      else
        let (day, _) ← digits? 1 (if dashed then rest.drop 1 else rest)
        Date.ofWeek? year week day
  else
    let (month, rest) ← digits? 2 rest
    if dashed && charAt rest 0 != '-' then none
    else
      let (day, rest) ← digits? 2 (if dashed then rest.drop 1 else rest)
      if rest.isEmpty then some ⟨year, month, day⟩ else none

/-- Hours, minutes, seconds and microseconds, and whether something follows them. -/
structure Clock where
  hour : Nat := 0
  minute : Nat := 0
  second : Nat := 0
  micros : Nat := 0
  rest : Bool := false

def Clock.total (clock : Clock) : Int :=
  (clock.hour * 3600 + clock.minute * 60 + clock.second : Nat) * Calendar.second + clock.micros

/-- Reads a fraction of a second; digits from the seventh on are dropped. The last argument is the
character that follows the text. -/
def fraction? (clock : Clock) (s : List Char) (next : Char) : Option Clock := do
  let count := min 6 s.length
  let (value, rest) ← digits? count s
  let rest := rest.dropWhile Numeral.isDigit
  some { clock with
    micros := value * power 10 (6 - count)
    rest := rest.headD next != ending }

/-- Reads the part with an index, hours being zero, and all that follow it. -/
def parts? (next : Char) (separated : Bool) (clock : Clock) : Nat → List Char → Option Clock
  | 0, s => fraction? clock s next
  | left + 1, s => do
    let index := 2 - left
    let (value, rest) ← digits? 2 s
    let clock : Clock :=
      if index == 0 then { clock with hour := value }
      else if index == 1 then { clock with minute := value }
      else { clock with second := value }
    match rest with
    | [] => some { clock with rest := next != ending }
    | [c] => some { clock with rest := c != ending }
    | c :: after =>
      -- behind the hours it shows whether the parts are separated
      let separated := if index == 0 then c == ':' else separated
      if separated && c == ':' then parts? next separated clock left after
      else if c == '.' || c == ',' then fraction? clock after next
      else if separated then none
      else parts? next separated clock left (c :: after)

def clock? (s : List Char) (next : Char) : Option Clock := parts? next true {} 3 s

def isZoneStart (c : Char) : Bool := c == '+' || c == '-' || c == 'Z'

/-- Reads a distance from UTC, which has to be less than a day. -/
def zone? (sign : Char) (s : List Char) : Option Int :=
  if sign == 'Z' then (if charAt s 0 == ending then some 0 else none)
  else
    match clock? s ending with
    | none => none
    | some clock =>
      -- a distance without a whole second is none
      let seconds := clock.total - clock.micros
      let size := if seconds == 0 then 0 else clock.total
      if clock.rest || day ≤ size then none
      else some (if sign == '-' then -size else size)

def time? (s : List Char) : Option (Clock × Option Int) :=
  let body := s.takeWhile (!isZoneStart ·)
  match s.dropWhile (!isZoneStart ·) with
  | [] => do
    let clock ← clock? body ending
    if clock.rest then none else some (clock, none)
  | sign :: zone => do
    let clock ← clock? body sign
    let offset ← zone? sign zone
    some (clock, some offset)

/-- The stamp of a date and a time that exist. -/
def ofParts? (date : Date) (clock : Clock) (offset : Option Int) : Option Stamp :=
  if date.isValid && clock.hour < 24 && clock.minute < 60 && clock.second < 60 then
    some ⟨date.toDays * day + clock.total, offset⟩
  else none

/-- The number of octets of the character that begins with an octet. -/
def characterSize (first : Char) : Nat :=
  let code := first.toNat
  if code < 0x80 then 1 else if code / 16 == 0xE then 3 else if code / 16 == 0xF then 4 else 2

def parseOctets? (s : List Char) : Option Stamp :=
  if s.length < 7 then none
  else do
    let index := separatorIndex s
    let date ← date? (s.take index)
    -- a date alone is its first moment
    if s.length ≤ index then ofParts? date {} none
    else
      let (clock, offset) ← time? (s.drop (index + characterSize (charAt s index)))
      ofParts? date clock offset

def parse? (s : String) : Option Stamp :=
  parseOctets? ((Text.Utf8.encode s.toList).map fun octet => Char.ofNat octet.toNat)

end Stamp

end DataGateway.Calendar
