import DjangoWaf.Lib.PyStr
import Mathlib.Algebra.Order.Field.Basic
import Mathlib.Algebra.Order.Group.Unbundled.Int
import Mathlib.Algebra.Order.Ring.Int
import Mathlib.Algebra.Order.Ring.Rat
import Mathlib.Tactic.Ring

/-!
# Points in time, and how Python writes them

`datetime` with its ISO 8601 text. A `Civil` is a date and a time of day of the proleptic Gregorian
calendar between the years 1 and 9999, to the microsecond; a `DateTime` adds the offset from UTC, if
there is one.

* `isoformat` writes the microseconds and the seconds of the offset only when they are not zero.
* `fromisoformat` reads what CPython 3.11 and 3.12 read: dates by month or by week, with or without
  separators; any one character between date and time; fractions with a point or a comma, behind any
  pair of digits and truncated to microseconds; `Z` or an offset. It follows the parser in C, which
  reads UTF-8 up to a zero byte and **lets one character slip** between a time and its zone.

`fromisoformat_isoformat` is the round trip, for offsets of zero or at least a second.
-/

namespace IsoDatetime

/-! ### The calendar -/

/-- `calendar.isleap`. -/
def isLeap (year : ℕ) : Bool := year % 4 = 0 && (year % 100 != 0 || year % 400 = 0)

def daysInMonth (year month : ℕ) : ℕ :=
  if month = 2 then if isLeap year then 29 else 28
  else if month ∈ [4, 6, 9, 11] then 30
  else 31

def daysBeforeYear (year : ℕ) : ℕ :=
  (year - 1) * 365 + (year - 1) / 4 - (year - 1) / 100 + (year - 1) / 400

def daysBeforeMonth (year month : ℕ) : ℕ :=
  ((List.range (month - 1)).map fun m ↦ daysInMonth year (m + 1)).sum

/-- A date and a time of day. -/
structure Civil where
  year : ℕ
  month : ℕ
  day : ℕ
  hour : ℕ
  minute : ℕ
  second : ℕ
  microsecond : ℕ
  year_mem : 1 ≤ year ∧ year ≤ 9999
  month_mem : 1 ≤ month ∧ month ≤ 12
  day_mem : 1 ≤ day ∧ day ≤ daysInMonth year month
  hour_lt : hour < 24
  minute_lt : minute < 60
  second_lt : second < 60
  microsecond_lt : microsecond < 1000000
  deriving DecidableEq

/-- A `timedelta` a `timezone` can be made from: less than a day in either direction. -/
structure Offset where
  micros : ℤ
  natAbs_lt : micros.natAbs < 86400000000
  deriving DecidableEq

/-- `datetime`. -/
structure DateTime where
  civil : Civil
  /-- `utcoffset()`; a naive time has none. -/
  offset : Option Offset
  deriving DecidableEq

/-- A time in UTC. -/
def Civil.utc (c : Civil) : DateTime := ⟨c, some ⟨0, by decide⟩⟩

/-- Microseconds since the start of the year 1. -/
def Civil.micros (c : Civil) : ℕ :=
  ((daysBeforeYear c.year + daysBeforeMonth c.year c.month + (c.day - 1)) * 86400 +
    c.hour * 3600 + c.minute * 60 + c.second) * 1000000 + c.microsecond

/-- Microseconds in UTC since the start of the year 1. A naive time counts as UTC. -/
def DateTime.instant (d : DateTime) : ℤ :=
  d.civil.micros - (d.offset.map Offset.micros).getD 0

/-- The start of the year 10000. -/
def maxMicros : ℤ := daysBeforeYear 10000 * 86400000000

/-- `datetime + timedelta(seconds=s)`, as an instant: `none` for the `OverflowError` of a result
outside the years 1 to 9999. -/
def DateTime.addSeconds (d : DateTime) (s : ℤ) : Option ℤ :=
  let sum := d.civil.micros + s * 1000000
  if 0 ≤ sum ∧ sum < maxMicros then some (d.instant + s * 1000000) else none

/-- The same in seconds. -/
def Civil.seconds (c : Civil) : ℚ := c.micros / 1000000

/-- `(now - d).total_seconds()`. -/
def Civil.since (now : Civil) (d : DateTime) : ℚ := ((now.micros : ℤ) - d.instant : ℤ) / 1000000

@[simp] theorem Civil.instant_utc (c : Civil) : c.utc.instant = c.micros := sub_zero _

theorem DateTime.eq_of_mem_addSeconds {d : DateTime} {s e : ℤ} (h : e ∈ d.addSeconds s) :
    e = d.instant + s * 1000000 := by
  rw [addSeconds] at h
  split_ifs at h
  · exact (Option.some.inj h).symm
  · exact absurd h (Option.not_mem_none e)

/-- Fewer than `s` seconds have passed. -/
theorem Civil.since_lt_iff {now : Civil} {d : DateTime} {s : ℤ} :
    now.since d < s ↔ (now.micros : ℤ) < d.instant + s * 1000000 := by
  have hmicros : (0 : ℚ) < 1000000 := by decide +kernel
  rw [since, div_lt_iff₀ hmicros, ← sub_lt_iff_lt_add']
  exact_mod_cast Iff.rfl

theorem Civil.since_utc (now c : Civil) : now.since c.utc = now.seconds - c.seconds := by
  rw [since, instant_utc, seconds, seconds]
  push_cast
  ring

/-! ### Writing -/

/-- Two digits. -/
def two (n : ℕ) : List Char := [Nat.digitChar (n / 10 % 10), Nat.digitChar (n % 10)]

/-- Four digits. -/
def four (n : ℕ) : List Char := two (n / 100) ++ two (n % 100)

/-- Six digits. -/
def six (n : ℕ) : List Char := two (n / 10000) ++ four (n % 10000)

/-- The fraction of a second, when there is one. -/
def fraction (microsecond : ℕ) : List Char :=
  if microsecond = 0 then [] else '.' :: six microsecond

/-- Hours, minutes and seconds. -/
def clock (hour minute second : ℕ) : List Char :=
  two hour ++ ':' :: (two minute ++ ':' :: two second)

/-- The offset, `+HH:MM[:SS[.ffffff]]`. -/
def Offset.text (o : Offset) : List Char :=
  let n := o.micros.natAbs
  let seconds := n / 1000000
  let hhmm := two (seconds / 3600) ++ ':' :: two (seconds / 60 % 60)
  (if o.micros < 0 then '-' else '+') ::
    (if n % 60000000 = 0 then hhmm
    else hhmm ++ ':' :: (two (seconds % 60) ++ fraction (n % 1000000)))

/-- `d.isoformat()`. -/
def DateTime.isoformat (d : DateTime) : List Char :=
  let c := d.civil
  four c.year ++ '-' :: (two c.month ++ '-' :: (two c.day ++ 'T' ::
    (clock c.hour c.minute c.second ++ (fraction c.microsecond ++
      match d.offset with
      | some o => o.text
      | none => []))))

/-! ### Reading -/

/-- A number of exactly `n` digits, and what follows it. -/
def parseDigits (n : ℕ) (cs : List Char) : Option (ℕ × List Char) :=
  if (cs.take n).length = n ∧ (cs.take n).all PyStr.isDigit = true then
    some (PyStr.ofDigits (cs.take n), cs.drop n)
  else none

/-- The character expected here is the next one: what follows it. -/
def expect (c : Char) : List Char → Option (List Char)
  | d :: cs => if d = c then some cs else none
  | [] => none

/-- The date of a day counted from the first of January, zero being that day; the count may leave
the year in either direction. -/
def ofYearDay (year : ℕ) (n : ℤ) : Option (ℕ × ℕ × ℕ) :=
  let length (y : ℕ) : ℤ := if isLeap y then 366 else 365
  let (y, n) : ℕ × ℤ :=
    if n < 0 then (year - 1, n + length (year - 1))
    else if length year ≤ n then (year + 1, n - length year)
    else (year, n)
  ((List.range 12).reverse.find? fun m ↦ (daysBeforeMonth y (m + 1) : ℤ) ≤ n).map fun m ↦
    (y, m + 1, (n - daysBeforeMonth y (m + 1) + 1).toNat)

/-- The weekday of the first of January, Monday being zero. -/
def firstWeekday (year : ℕ) : ℕ := daysBeforeYear year % 7

/-- `_isoweek_to_gregorian`. -/
def isoWeekToGregorian (year week day : ℕ) : Option (ℕ × ℕ × ℕ) :=
  -- a year has 53 weeks when it starts on a Thursday, or on a Wednesday and is a leap year
  let long := firstWeekday year = 3 ∨ (firstWeekday year = 2 ∧ isLeap year = true)
  if 1 ≤ year ∧ year ≤ 9999 ∧ 1 ≤ week ∧ (week ≤ 52 ∨ (week = 53 ∧ long)) ∧ 1 ≤ day ∧ day ≤ 7 then
    -- the first week is the one with the first Thursday in it
    let monday : ℤ :=
      if firstWeekday year ≤ 3 then -(firstWeekday year : ℤ) else 7 - firstWeekday year
    ofYearDay year (monday + (week - 1) * 7 + (day - 1))
  else none

/-- `_parse_isoformat_date`. -/
def parseDate (cs : List Char) : Option (ℕ × ℕ × ℕ) := do
  let (year, cs) ← parseDigits 4 cs
  let hasSep := cs.head? = some '-'
  let cs := if hasSep then cs.tail else cs
  if cs.head? = some 'W' then
    let (week, cs) ← parseDigits 2 cs.tail
    if cs = [] then isoWeekToGregorian year week 1
    else
      let cs ← if hasSep then expect '-' cs else some cs
      let (day, cs) ← parseDigits 1 cs
      if cs = [] then isoWeekToGregorian year week day else none
  else
    let (month, cs) ← parseDigits 2 cs
    let cs ← if hasSep then expect '-' cs else some cs
    let (day, cs) ← parseDigits 2 cs
    if cs = [] then some (year, month, day) else none

/-- What stands behind a pair of digits, for `parse_hh_mm_ss_ff`. -/
inductive Behind
  /-- The end; whether the character there is another than the zero of a text that is over. -/
  | done (more : Bool)
  | pair (cs : List Char)
  | fraction (cs : List Char)

/-- The end of a round of the loop: one character is read, also where only `follow` is left. -/
def behind (colon : Bool) (follow : Char) (cs : List Char) : Option Behind :=
  let c := cs.headD follow
  if cs.tail = [] then some (.done (c != '\x00'))
  else if colon = true ∧ c = ':' then some (.pair cs.tail)
  else if c = '.' ∨ c = ',' then some (.fraction cs.tail)
  else if colon = false then some (.pair cs)
  else none

/-- A fraction in microseconds: what is beyond six digits is cut off. -/
def parseFraction (follow : Char) (cs : List Char) : Option (ℕ × Bool) := do
  let n := min cs.length 6
  let (microsecond, rest) ← parseDigits n cs
  return (microsecond * 10 ^ (6 - n), (rest.dropWhile PyStr.isDigit).headD follow != '\x00')

/-- The loop of `parse_hh_mm_ss_ff`, up to `n` pairs of digits and a fraction. The first pair says
whether there are colons. -/
def parsePairs (follow : Char) : ℕ → Option Bool → List Char → Option (List ℕ × ℕ × Bool)
  | 0, _, cs => (parseFraction follow cs).map fun f ↦ ([], f)
  | n + 1, colon, cs => do
    let (value, cs) ← parseDigits 2 cs
    let colon := colon.getD (cs.headD follow == ':')
    match ← behind colon follow cs with
    | .done more => return ([value], 0, more)
    | .fraction cs => (parseFraction follow cs).map fun f ↦ ([value], f)
    | .pair cs => (parsePairs follow n (some colon) cs).map fun r ↦ (value :: r.1, r.2)

/-- `parse_hh_mm_ss_ff`: hour, minute, second and microsecond, and whether there is more. `follow`
is the character behind the text. -/
def parseClock (follow : Char) (cs : List Char) : Option (ℕ × ℕ × ℕ × ℕ × Bool) :=
  (parsePairs follow 3 none cs).map fun r ↦
    (r.1.getD 0 0, r.1.getD 1 0, r.1.getD 2 0, r.2)

/-- Where the text of a time zone starts. -/
def isZoneStart (c : Char) : Bool := c == '-' || c == '+' || c == 'Z'

/-- `timezone(timedelta(microseconds=micros))`, or `none` for `ValueError`. -/
def Offset.ofMicros (micros : ℤ) : Option Offset :=
  if h : micros.natAbs < 86400000000 then some ⟨micros, h⟩ else none

/-- `tzinfo_from_isoformat_results`: without seconds the microseconds do not count. -/
def Offset.ofSeconds (sign : ℤ) (seconds microsecond : ℕ) : Option Offset :=
  if seconds = 0 then some ⟨0, by decide⟩
  else Offset.ofMicros (sign * (seconds * 1000000 + microsecond : ℕ))

/-- The time zone behind a time, if there is one; `more` says whether the time was not at its end.
-/
def parseZone (more : Bool) : List Char → Option (Option Offset)
  | [] => if more then none else some none
  | sign :: cs =>
    if sign = 'Z' then if cs.headD '\x00' = '\x00' then some (some ⟨0, by decide⟩) else none
    else do
      let (hour, minute, second, microsecond, more) ← parseClock '\x00' cs
      if more then none
      else (Offset.ofSeconds (if sign = '-' then -1 else 1) (hour * 3600 + minute * 60 + second)
        microsecond).map some

/-- `_find_isoformat_datetime_separator`: how many characters the date has. -/
def dateLength (cs : List Char) : Option ℕ :=
  let digitAt (i : ℕ) := (cs[i]?).any PyStr.isDigit
  if cs.length = 7 then some 7
  else if cs[4]? = some '-' then
    if cs[5]? = some 'W' then
      if cs[8]? = some '-' then
        if cs.length = 9 then none
        -- `YYYY-Www-##`: the hyphen is taken to end the date
        else if digitAt 10 then some 8
        else some 10
      else some 8
    else some 10
  else if cs[4]? = some 'W' then
    -- the parts of a time come in pairs of digits, so the parity tells where it starts
    let pos := 7 + ((cs.drop 7).takeWhile PyStr.isDigit).length
    if pos < 9 then some pos
    else if pos % 2 = 0 then some 7
    else some 8
  else some 8

/-- A date and a time of day, when the fields are in their ranges. -/
def Civil.ofFields (year month day hour minute second microsecond : ℕ) : Option Civil :=
  if h : (1 ≤ year ∧ year ≤ 9999) ∧ (1 ≤ month ∧ month ≤ 12) ∧
      (1 ≤ day ∧ day ≤ daysInMonth year month) ∧ hour < 24 ∧ minute < 60 ∧ second < 60 ∧
      microsecond < 1000000 then
    some ⟨year, month, day, hour, minute, second, microsecond, h.1, h.2.1, h.2.2.1, h.2.2.2.1,
      h.2.2.2.2.1, h.2.2.2.2.2.1, h.2.2.2.2.2.2⟩
  else none

/-- The bytes of a text, each as the character of its number. -/
def bytesOf (cs : List Char) : List Char :=
  cs.flatMap fun c ↦ (String.utf8EncodeChar c).map fun b ↦ Char.ofNat b.toNat

/-- How many bytes the separator has, by its first one. -/
def separatorLength (lead : Char) : ℕ :=
  if lead.toNat < 0x80 then 1
  else if lead.toNat / 16 = 0xE then 3
  else if lead.toNat / 16 = 0xF then 4
  else 2

/-- `datetime.fromisoformat`, or `none` for `ValueError`. -/
def fromisoformat (text : List Char) : Option DateTime :=
  if text.length < 7 then none
  else do
    let cs := bytesOf text
    let n ← dateLength cs
    let (year, month, day) ← parseDate (cs.take n)
    match cs.drop n with
    | [] => (Civil.ofFields year month day 0 0 0 0).map (⟨·, none⟩)
    | lead :: rest =>
      let time := rest.drop (separatorLength lead - 1)
      let zone := time.dropWhile (!isZoneStart ·)
      let (hour, minute, second, microsecond, more) ←
        parseClock (zone.headD '\x00') (time.takeWhile (!isZoneStart ·))
      let offset ← parseZone more zone
      (Civil.ofFields year month day hour minute second microsecond).map (⟨·, offset⟩)

/-! ### Digits -/

theorem isDigit_digitChar {n : ℕ} (h : n < 10) : PyStr.isDigit (Nat.digitChar n) = true := by
  have hall : ∀ n < 10, PyStr.isDigit (Nat.digitChar n) = true := by decide
  exact hall n h

theorem isDigit_of_mem_two {n : ℕ} {c : Char} (h : c ∈ two n) : PyStr.isDigit c = true := by
  rw [two, List.mem_cons, List.mem_singleton] at h
  rcases h with rfl | rfl
  · exact isDigit_digitChar (Nat.mod_lt _ (by decide))
  · exact isDigit_digitChar (Nat.mod_lt _ (by decide))

theorem isDigit_of_mem_four {n : ℕ} {c : Char} (h : c ∈ four n) : PyStr.isDigit c = true :=
  (List.mem_append.1 h).elim isDigit_of_mem_two isDigit_of_mem_two

theorem isDigit_of_mem_six {n : ℕ} {c : Char} (h : c ∈ six n) : PyStr.isDigit c = true :=
  (List.mem_append.1 h).elim isDigit_of_mem_two isDigit_of_mem_four

theorem length_two (n : ℕ) : (two n).length = 2 := rfl

theorem length_four (n : ℕ) : (four n).length = 4 := rfl

theorem length_six (n : ℕ) : (six n).length = 6 := rfl

theorem ofDigits_append (ds es : List Char) :
    PyStr.ofDigits (ds ++ es) = PyStr.ofDigits ds * 10 ^ es.length + PyStr.ofDigits es := by
  induction es using List.reverseRecOn with
  | nil => simp [PyStr.ofDigits]
  | append_singleton es c ih =>
    rw [← List.append_assoc]
    simp only [PyStr.ofDigits, List.foldl_append, List.foldl_cons, List.foldl_nil,
      List.length_append, List.length_singleton] at ih ⊢
    rw [ih, pow_succ]
    ring

theorem ofDigits_two {n : ℕ} (h : n < 100) : PyStr.ofDigits (two n) = n := by
  have htens : n / 10 % 10 = n / 10 := Nat.mod_eq_of_lt (by omega)
  rw [two, htens]
  simp only [PyStr.ofDigits, List.foldl_cons, List.foldl_nil,
    Nat.toNat_digitChar_of_lt_ten (show n / 10 < 10 by omega),
    Nat.toNat_digitChar_of_lt_ten (show n % 10 < 10 by omega)]
  omega

theorem ofDigits_four {n : ℕ} (h : n < 10000) : PyStr.ofDigits (four n) = n := by
  rw [four, ofDigits_append, ofDigits_two (by omega), ofDigits_two (by omega), length_two]
  omega

theorem ofDigits_six {n : ℕ} (h : n < 1000000) : PyStr.ofDigits (six n) = n := by
  rw [six, ofDigits_append, ofDigits_two (by omega), ofDigits_four (by omega), length_four]
  omega

theorem parseDigits_append {ds : List Char} (hds : ∀ c ∈ ds, PyStr.isDigit c = true)
    (rest : List Char) : parseDigits ds.length (ds ++ rest) = some (PyStr.ofDigits ds, rest) := by
  rw [parseDigits, List.take_left, List.drop_left, if_pos ⟨rfl, List.all_eq_true.2 hds⟩]

theorem parseDigits_two {n : ℕ} (h : n < 100) (rest : List Char) :
    parseDigits 2 (two n ++ rest) = some (n, rest) := by
  have hparse := parseDigits_append (fun _ ↦ isDigit_of_mem_two (n := n)) rest
  rwa [ofDigits_two h] at hparse

theorem parseDigits_four {n : ℕ} (h : n < 10000) (rest : List Char) :
    parseDigits 4 (four n ++ rest) = some (n, rest) := by
  have hparse := parseDigits_append (fun _ ↦ isDigit_of_mem_four (n := n)) rest
  rwa [ofDigits_four h] at hparse

/-! ### The round trip -/

theorem head?_two_ne {n : ℕ} {c : Char} (hc : PyStr.isDigit c = false) (rest : List Char) :
    (two n ++ rest).head? ≠ some c := by
  intro h
  have hmem : c ∈ two n := by
    rw [two, List.cons_append, List.head?_cons] at h
    rw [two, Option.some.inj h]
    exact List.mem_cons_self
  rw [isDigit_of_mem_two hmem] at hc
  cases hc

theorem parseDate_text {year month day : ℕ} (hy : year < 10000) (hm : month < 100)
    (hd : day < 100) :
    parseDate (four year ++ '-' :: (two month ++ '-' :: two day)) = some (year, month, day) := by
  have hweek : (two month ++ '-' :: two day).head? ≠ some 'W' := head?_two_ne (by decide) _
  have hday : parseDigits 2 (two day) = some (day, []) := by
    rw [← List.append_nil (two day)]
    exact parseDigits_two hd []
  rw [parseDate, parseDigits_four hy]
  simp only [Option.bind_eq_bind, Option.bind_some, List.head?_cons, if_true, List.tail_cons]
  rw [if_neg hweek, parseDigits_two hm]
  simp [expect, hday]

theorem parseFraction_six {n : ℕ} (h : n < 1000000) (follow : Char) :
    parseFraction follow (six n) = some (n, follow != '\x00') := by
  have hparse := parseDigits_append (fun _ ↦ isDigit_of_mem_six (n := n)) []
  rw [List.append_nil, ofDigits_six h, length_six] at hparse
  rw [parseFraction, length_six]
  simp only [Nat.min_self, hparse, Option.bind_eq_bind, Option.bind_some, Nat.sub_self, pow_zero,
    Nat.mul_one, List.dropWhile_nil, List.headD_nil]
  rfl

/-- A pair and a colon: one round of the loop. -/
theorem parsePairs_colon {value : ℕ} (h : value < 100) (follow : Char) (n : ℕ)
    {colon : Option Bool} (hcolon : colon.getD true = true) {cs : List Char} (hcs : cs ≠ []) :
    parsePairs follow (n + 1) colon (two value ++ ':' :: cs) =
      (parsePairs follow n (some true) cs).map fun r ↦ (value :: r.1, r.2) := by
  have hgetD : colon.getD (':' == ':') = true := hcolon
  rw [parsePairs, parseDigits_two h]
  simp only [Option.bind_eq_bind, Option.bind_some, behind, List.headD_cons, List.tail_cons,
    if_neg hcs, hgetD, and_self, if_true]

/-- A pair at the end of the text. -/
theorem parsePairs_end {value : ℕ} (h : value < 100) (follow : Char) (n : ℕ)
    (colon : Option Bool) :
    parsePairs follow (n + 1) colon (two value) = some ([value], 0, follow != '\x00') := by
  rw [← List.append_nil (two value), parsePairs, parseDigits_two h]
  simp only [Option.bind_eq_bind, Option.bind_some, behind, List.headD_nil, List.tail_nil, if_true]
  rfl

/-- A pair in front of a fraction, or of nothing. -/
theorem parsePairs_fraction {value microsecond : ℕ} (h : value < 100)
    (hf : microsecond < 1000000) (follow : Char) (n : ℕ) (colon : Option Bool) :
    parsePairs follow (n + 1) colon (two value ++ fraction microsecond) =
      some ([value], microsecond, follow != '\x00') := by
  rw [fraction]
  split_ifs with hzero
  · rw [List.append_nil, parsePairs_end h, hzero]
  · have hsix : six microsecond ≠ [] := List.cons_ne_nil _ _
    rw [parsePairs, parseDigits_two h]
    simp only [Option.bind_eq_bind, Option.bind_some, behind, List.headD_cons, List.tail_cons,
      if_neg hsix, Char.reduceEq, and_false, if_false, true_or, if_true, parseFraction_six hf,
      Option.map_some]

theorem parseClock_text {hour minute second microsecond : ℕ} (hh : hour < 100) (hm : minute < 100)
    (hs : second < 100) (hf : microsecond < 1000000) (follow : Char) :
    parseClock follow (clock hour minute second ++ fraction microsecond) =
      some (hour, minute, second, microsecond, follow != '\x00') := by
  have htext : clock hour minute second ++ fraction microsecond = two hour ++ ':' ::
      (two minute ++ ':' :: (two second ++ fraction microsecond)) := by
    simp [clock]
  have hhour : parsePairs follow 3 none (two hour ++ ':' ::
      (two minute ++ ':' :: (two second ++ fraction microsecond))) = _ :=
    parsePairs_colon hh follow 2 rfl (List.cons_ne_nil _ _)
  have hminute : parsePairs follow 2 (some true)
      (two minute ++ ':' :: (two second ++ fraction microsecond)) = _ :=
    parsePairs_colon hm follow 1 rfl (List.cons_ne_nil _ _)
  have hsecond : parsePairs follow 1 (some true) (two second ++ fraction microsecond) = _ :=
    parsePairs_fraction hs hf follow 0 _
  rw [htext, parseClock, hhour, hminute, hsecond]
  rfl

theorem parseClock_hourMinute {hour minute : ℕ} (hh : hour < 100) (hm : minute < 100)
    (follow : Char) :
    parseClock follow (two hour ++ ':' :: two minute) =
      some (hour, minute, 0, 0, follow != '\x00') := by
  have hhour : parsePairs follow 3 none (two hour ++ ':' :: two minute) = _ :=
    parsePairs_colon hh follow 2 rfl (List.cons_ne_nil _ _)
  have hminute : parsePairs follow 2 (some true) (two minute) = _ := parsePairs_end hm follow 1 _
  rw [parseClock, hhour, hminute]
  rfl

/-- An offset that is read back: one of less than a second would lose its microseconds. -/
def Offset.Legible (o : Offset) : Prop := o.micros.natAbs < 1000000 → o.micros = 0

/-- A sign, seconds and microseconds make the offset. -/
theorem ofSeconds_micros {o : Offset} (ho : o.Legible) {seconds microsecond : ℕ}
    (hf : microsecond < 1000000) (hmicros : seconds * 1000000 + microsecond = o.micros.natAbs) :
    Offset.ofSeconds (if o.micros < 0 then -1 else 1) seconds microsecond = some o := by
  rw [Offset.ofSeconds]
  split_ifs with hzero hneg
  · have hnone : o.micros = 0 := ho (by omega)
    exact congrArg some (by rw [Offset.mk.injEq]; exact hnone.symm)
  · rw [Offset.ofMicros, dif_pos (by have := o.natAbs_lt; omega)]
    exact congrArg some (by rw [Offset.mk.injEq]; omega)
  · rw [Offset.ofMicros, dif_pos (by have := o.natAbs_lt; omega)]
    exact congrArg some (by rw [Offset.mk.injEq]; omega)

/-- A sign and a clock are the offset of that many microseconds. -/
theorem parseZone_of_clock {o : Offset} (ho : o.Legible) {cs : List Char}
    {hour minute second microsecond : ℕ} (hf : microsecond < 1000000) (more : Bool)
    (hclock : parseClock '\x00' cs = some (hour, minute, second, microsecond, false))
    (hmicros : (hour * 3600 + minute * 60 + second) * 1000000 + microsecond = o.micros.natAbs) :
    parseZone more ((if o.micros < 0 then '-' else '+') :: cs) = some (some o) := by
  have hsign : (if (if o.micros < 0 then '-' else '+') = '-' then (-1 : ℤ) else 1) =
      if o.micros < 0 then -1 else 1 := by
    split_ifs with hneg hsame hsame
    · rfl
    · exact absurd rfl hsame
    · exact absurd hsame (by decide)
    · rfl
  have hnotZ : (if o.micros < 0 then '-' else '+') ≠ 'Z' := by
    split_ifs
    · decide
    · decide
  rw [parseZone, if_neg hnotZ, hclock]
  simp only [Option.bind_eq_bind, Option.bind_some, hsign, Bool.false_eq_true, if_false]
  rw [ofSeconds_micros ho hf hmicros]
  rfl

theorem parseZone_text {o : Offset} (ho : o.Legible) (more : Bool) :
    parseZone more o.text = some (some o) := by
  have hlt := o.natAbs_lt
  rw [Offset.text]
  generalize hn : o.micros.natAbs = n at hlt ⊢
  by_cases hminutes : n % 60000000 = 0
  · rw [if_pos hminutes]
    refine parseZone_of_clock ho (by decide) more
      (parseClock_hourMinute (by omega) (by omega) '\x00') ?_
    rw [hn]
    omega
  · have htext : two (n / 1000000 / 3600) ++ ':' :: two (n / 1000000 / 60 % 60) ++
        ':' :: (two (n / 1000000 % 60) ++ fraction (n % 1000000)) =
        clock (n / 1000000 / 3600) (n / 1000000 / 60 % 60) (n / 1000000 % 60) ++
          fraction (n % 1000000) := by
      simp [clock]
    rw [if_neg hminutes, htext]
    refine parseZone_of_clock ho (Nat.mod_lt _ (by decide)) more
      (parseClock_text (by omega) (by omega) (by omega) (by omega) '\x00') ?_
    rw [hn]
    omega

/-- The text of an offset starts where `isZoneStart` looks for it. -/
theorem exists_offset_text (o : Offset) : ∃ c cs, o.text = c :: cs ∧ isZoneStart c = true := by
  rw [Offset.text]
  refine ⟨_, _, rfl, ?_⟩
  split_ifs
  · rfl
  · rfl

theorem isZoneStart_of_isDigit {c : Char} (h : PyStr.isDigit c = true) : isZoneStart c = false := by
  rw [Bool.eq_false_iff]
  intro hstart
  simp only [isZoneStart, Bool.or_eq_true, beq_iff_eq] at hstart
  rcases hstart with (rfl | rfl) | rfl
  · exact absurd h (by decide)
  · exact absurd h (by decide)
  · exact absurd h (by decide)

theorem isZoneStart_of_mem_clock {hour minute second : ℕ} {c : Char}
    (h : c ∈ clock hour minute second) : isZoneStart c = false := by
  simp only [clock, List.mem_append, List.mem_cons] at h
  rcases h with h | rfl | h | rfl | h
  · exact isZoneStart_of_isDigit (isDigit_of_mem_two h)
  · rfl
  · exact isZoneStart_of_isDigit (isDigit_of_mem_two h)
  · rfl
  · exact isZoneStart_of_isDigit (isDigit_of_mem_two h)

theorem isZoneStart_clock {hour minute second microsecond : ℕ} {c : Char}
    (h : c ∈ clock hour minute second ++ fraction microsecond) : isZoneStart c = false := by
  rcases List.mem_append.1 h with h | h
  · exact isZoneStart_of_mem_clock h
  · rw [fraction] at h
    split_ifs at h
    · exact absurd h List.not_mem_nil
    · rcases List.mem_cons.1 h with rfl | h
      · rfl
      · exact isZoneStart_of_isDigit (isDigit_of_mem_six h)

/-- The text of a zone, or of none. -/
def zoneText (offset : Option Offset) : List Char :=
  match offset with
  | some o => o.text
  | none => []

/-- A time is over, or its zone follows. -/
theorem parseZone_zoneText {offset : Option Offset} (h : ∀ o ∈ offset, o.Legible) :
    parseZone ((zoneText offset).headD '\x00' != '\x00') (zoneText offset) = some offset := by
  rcases offset with - | o
  · rfl
  · exact parseZone_text (h o rfl) _

/-- A time and its zone come apart at the zone. -/
theorem span_zoneText {time : List Char} (h : ∀ c ∈ time, isZoneStart c = false)
    (offset : Option Offset) :
    (time ++ zoneText offset).takeWhile (!isZoneStart ·) = time ∧
      (time ++ zoneText offset).dropWhile (!isZoneStart ·) = zoneText offset := by
  have htime : ∀ c ∈ time, (!isZoneStart c) = true := fun c hc ↦ by rw [h c hc]; rfl
  rw [List.takeWhile_append_of_pos htime, List.dropWhile_append_of_pos htime]
  rcases offset with - | o
  · simp [zoneText]
  · obtain ⟨c, cs, htext, hstart⟩ := exists_offset_text o
    simp [zoneText, htext, hstart]

theorem ofFields_civil (c : Civil) :
    Civil.ofFields c.year c.month c.day c.hour c.minute c.second c.microsecond = some c :=
  dif_pos ⟨c.year_mem, c.month_mem, c.day_mem, c.hour_lt, c.minute_lt, c.second_lt,
    c.microsecond_lt⟩

theorem daysInMonth_le (year month : ℕ) : daysInMonth year month ≤ 31 := by
  rw [daysInMonth]
  split_ifs <;> decide

/-- A text with a hyphen at the fifth place and a digit behind it starts with ten characters of a
date. -/
theorem dateLength_eq_ten {cs : List Char} (hlen : cs.length ≠ 7) (hhyphen : cs[4]? = some '-')
    (hmonth : cs[5]? ≠ some 'W') : dateLength cs = some 10 := by
  rw [dateLength, if_neg hlen, if_pos hhyphen, if_neg hmonth]

/-! ### The characters of a text -/

/-- A digit, or one of the five other characters `isoformat` writes. -/
def IsText (c : Char) : Prop := PyStr.isDigit c = true ∨ c ∈ ['-', '+', ':', '.', 'T']

instance : DecidablePred IsText := fun c ↦
  inferInstanceAs (Decidable (PyStr.isDigit c = true ∨ c ∈ ['-', '+', ':', '.', 'T']))

theorem isText_two (n : ℕ) : ∀ c ∈ two n, IsText c := fun _ hc ↦ Or.inl (isDigit_of_mem_two hc)

theorem isText_four (n : ℕ) : ∀ c ∈ four n, IsText c := fun _ hc ↦ Or.inl (isDigit_of_mem_four hc)

theorem isText_fraction (n : ℕ) : ∀ c ∈ fraction n, IsText c := by
  rw [fraction]
  split_ifs
  · exact fun _ hc ↦ absurd hc List.not_mem_nil
  · rw [List.forall_mem_cons]
    exact ⟨by decide, fun _ hc ↦ Or.inl (isDigit_of_mem_six hc)⟩

theorem isText_zoneText (offset : Option Offset) : ∀ c ∈ zoneText offset, IsText c := by
  rcases offset with - | o
  · exact fun _ hc ↦ absurd hc List.not_mem_nil
  · rw [zoneText, Offset.text]
    have hcolon : IsText ':' := by decide
    rw [List.forall_mem_cons]
    refine ⟨by split_ifs <;> decide, ?_⟩
    split_ifs
    · simp only [List.forall_mem_append, List.forall_mem_cons]
      exact ⟨isText_two _, hcolon, isText_two _⟩
    · simp only [List.forall_mem_append, List.forall_mem_cons]
      exact ⟨⟨isText_two _, hcolon, isText_two _⟩, hcolon, isText_two _, isText_fraction _⟩

/-- What `isoformat` writes is digits and five other characters. -/
theorem isText_isoformat (d : DateTime) : ∀ c ∈ d.isoformat, IsText c := by
  rw [DateTime.isoformat]
  simp only [clock, List.forall_mem_append, List.forall_mem_cons]
  exact ⟨isText_four _, by decide, isText_two _, by decide, isText_two _, by decide,
    ⟨isText_two _, by decide, isText_two _, by decide, isText_two _⟩, isText_fraction _,
    isText_zoneText d.offset⟩

theorem lt_of_isText {c : Char} (h : IsText c) : c.toNat < 128 := by
  rcases h with hdigit | hother
  · rw [PyStr.isDigit, Bool.and_eq_true, decide_eq_true_eq, decide_eq_true_eq] at hdigit
    exact lt_of_le_of_lt (UInt32.le_iff_toNat_le.1 hdigit.2) (by decide)
  · have hall : ∀ c ∈ ['-', '+', ':', '.', 'T'], c.toNat < 128 := by decide
    exact hall c hother

/-- A character of seven bits is one byte. -/
theorem byte_eq_self {c : Char} (h : c.toNat < 128) :
    (String.utf8EncodeChar c).map (fun b ↦ Char.ofNat b.toNat) = [c] := by
  have hval : c.val.toNat < 128 := h
  have hsize : c.utf8Size = 1 :=
    Char.utf8Size_eq_one_iff.2 (UInt32.le_iff_toNat_le.2 (Nat.le_of_lt_succ hval))
  have hbyte : c.val.toUInt8.toNat = c.toNat := by
    rw [UInt32.toNat_toUInt8]
    exact Nat.mod_eq_of_lt (by omega)
  rw [String.utf8EncodeChar_eq_singleton hsize, List.map_singleton, hbyte, Char.ofNat_toNat]

/-- Such a text is its own bytes. -/
theorem bytesOf_eq_self {cs : List Char} (h : ∀ c ∈ cs, IsText c) : bytesOf cs = cs := by
  induction cs with
  | nil => rfl
  | cons c cs ih =>
    have hbyte : (String.utf8EncodeChar c).map (fun b ↦ Char.ofNat b.toNat) = [c] :=
      byte_eq_self (lt_of_isText (h c List.mem_cons_self))
    rw [bytesOf, List.flatMap_cons, hbyte, ← bytesOf, ih fun d hd ↦ h d (List.mem_cons_of_mem c hd)]
    rfl

/-! ### Round trip -/

/-- A time whose offset is read back. -/
def DateTime.Legible (d : DateTime) : Prop := ∀ o ∈ d.offset, o.Legible

theorem Civil.legible_utc (c : Civil) : c.utc.Legible := by
  rintro o ho -
  rw [← Option.some.inj ho]

/-- **What `isoformat` writes, `fromisoformat` reads.** -/
theorem fromisoformat_isoformat {d : DateTime} (hd : d.Legible) :
    fromisoformat d.isoformat = some d := by
  rcases d with ⟨c, offset⟩
  have hyear := c.year_mem.2
  have hmonth := c.month_mem.2
  have hday := c.day_mem.2.trans (daysInMonth_le _ _)
  have hhour := c.hour_lt
  have hminute := c.minute_lt
  have hsecond := c.second_lt
  let date := four c.year ++ '-' :: (two c.month ++ '-' :: two c.day)
  let time := clock c.hour c.minute c.second ++ fraction c.microsecond
  let follow := (zoneText offset).headD '\x00'
  have hdate : parseDate date = some (c.year, c.month, c.day) :=
    parseDate_text (by omega) (by omega) (by omega)
  have hclock : parseClock follow time =
      some (c.hour, c.minute, c.second, c.microsecond, follow != '\x00') :=
    parseClock_text (by omega) (by omega) (by omega) c.microsecond_lt follow
  have hzone : parseZone (follow != '\x00') (zoneText offset) = some offset :=
    parseZone_zoneText hd
  obtain ⟨htake, hdrop⟩ : (time ++ zoneText offset).takeWhile (!isZoneStart ·) = time ∧
      (time ++ zoneText offset).dropWhile (!isZoneStart ·) = zoneText offset :=
    span_zoneText (fun _ ↦ isZoneStart_clock) offset
  have htext : (DateTime.mk c offset).isoformat = date ++ 'T' :: (time ++ zoneText offset) := by
    simp [DateTime.isoformat, zoneText, date, time]
  have hbytes := bytesOf_eq_self (isText_isoformat ⟨c, offset⟩)
  have hsplit : (date ++ 'T' :: (time ++ zoneText offset)).take 10 = date ∧
      (date ++ 'T' :: (time ++ zoneText offset)).drop 10 = 'T' :: (time ++ zoneText offset) :=
    ⟨rfl, rfl⟩
  have hlength : 11 < (date ++ 'T' :: (time ++ zoneText offset)).length := by
    simp [date, time, clock, length_four, length_two]
    omega
  have hmonthDigit : (date ++ 'T' :: (time ++ zoneText offset))[5]? ≠ some 'W' := by
    intro h
    have hdigit := isDigit_digitChar (Nat.mod_lt (c.month / 10) (show 0 < 10 by decide))
    rw [show Nat.digitChar (c.month / 10 % 10) = 'W' from Option.some.inj h] at hdigit
    exact absurd hdigit (by decide)
  have hseparator : separatorLength 'T' - 1 = 0 := by decide
  have hne : (date ++ 'T' :: (time ++ zoneText offset)).length ≠ 7 := by omega
  have hten := dateLength_eq_ten hne rfl hmonthDigit
  rw [fromisoformat, hbytes, htext, if_neg (by omega)]
  simp only [hten, Option.bind_eq_bind, Option.bind_some, hsplit.1, hsplit.2, hdate, hseparator,
    List.drop_zero, htake, hdrop]
  rw [hclock]
  simp only [Option.bind_some]
  rw [hzone]
  simp only [Option.bind_some, ofFields_civil, Option.map_some]

example : fromisoformat "2020-W01-1".toList = fromisoformat "2019-12-30".toList := by
  decide +kernel
example : fromisoformat "20240229T10.5+Z".toList = none := by decide +kernel
example : fromisoformat "2024-02-29T".toList = none := by decide +kernel

end IsoDatetime
