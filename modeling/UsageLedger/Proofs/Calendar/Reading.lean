/-
Reading what is written at fixed places.

The reader of timestamps works by position, so what it reads does not depend on where the
bytes stand: behind other bytes a clock is read as it would be read at the front
(`readClock?_append`).  That leaves the front.  A clock is written in one of three forms, to
the minute, to the second or to the microsecond, and each is read back there whatever
follows it, as long as no digit does (`readClock?_bytes`).  Dates and offsets are read on
the same terms, and `readIsoBytes?_bytes` puts the parts together.

An offset shorter than a second is lost: it is read as universal time (`heardOffset`).
-/
import Mathlib.Tactic.IntervalCases
import UsageLedger.Calendar.Iso

namespace UsageLedger

namespace ClockTime

/-- The hands at a number of microseconds show that number. -/
theorem micros_ofMicros (n : Nat) : (ofMicros n).micros = n := by
  simp only [micros, ofMicros]
  omega

theorem isValid_ofMicros {n : Nat} (h : n < microsPerDay) : (ofMicros n).isValid = true := by
  unfold microsPerDay at h
  have hhour : n / 3600000000 < 24 := by omega
  simp [isValid, ofMicros, hhour, Nat.mod_lt]

end ClockTime

namespace Calendar

/-! ### Bytes of a text -/

theorem byteArray_toList_loop (b : ByteArray) (i : Nat) (r : List UInt8) :
    ByteArray.toList.loop b i r = r.reverse ++ b.data.toList.drop i := by
  fun_induction ByteArray.toList.loop b i r with
  | case1 i r hlt ih =>
      have hget : b.data.toList.drop i = b.get! i :: b.data.toList.drop (i + 1) := by
        rw [List.drop_eq_getElem_cons (by simpa using hlt)]
        congr 1
        show b.data[i] = b.data[i]!
        exact (getElem!_pos b.data i hlt).symm
      rw [ih, hget, List.reverse_cons, List.append_assoc]
      rfl
  | case2 i r hge =>
      rw [List.drop_eq_nil_of_le (by simpa using hge), List.append_nil]

/-- The bytes of a text are those of its characters. -/
theorem toUTF8_ofList (l : List Char) :
    (String.ofList l).toUTF8.toList = l.flatMap String.utf8EncodeChar := by
  rw [ByteArray.toList, byteArray_toList_loop]
  show [].reverse ++ List.drop 0 (l.flatMap String.utf8EncodeChar).toByteArray.data.toList = _
  simp

/-- The byte that writes a digit. -/
def digitByte (d : Nat) : UInt8 := UInt8.ofNat (48 + d)

theorem toNat_digitByte {d : Nat} (h : d < 10) : (digitByte d).toNat = 48 + d := by
  unfold digitByte
  rw [UInt8.toNat_ofNat']
  omega

theorem isByte_digitByte {d : Nat} (h : d < 10) {c : Char} (hc : c.toNat < 48 ∨ 57 < c.toNat) :
    isByte (digitByte d) c = false := by
  simp only [isByte, toNat_digitByte h, beq_eq_false_iff_ne]
  omega

theorem utf8EncodeChar_digitChar {d : Nat} (h : d < 10) :
    String.utf8EncodeChar (Text.digitChar d) = [digitByte d] := by
  interval_cases d <;> decide

/-- The bytes of two digits. -/
def twoBytes (n : Nat) : List UInt8 := [digitByte (n / 10 % 10), digitByte (n % 10)]

theorem encode_twoDigits (n : Nat) :
    (Text.twoDigits n).flatMap String.utf8EncodeChar = twoBytes n := by
  simp [Text.twoDigits, twoBytes, utf8EncodeChar_digitChar (Nat.mod_lt _ (by decide : 0 < 10))]

/-! ### Behind other bytes -/

section Behind

variable (front b : List UInt8)

theorem byteAt_append (i : Nat) : byteAt (front ++ b) (front.length + i) = byteAt b i := by
  rw [byteAt, List.getElem?_append_right (Nat.le_add_right _ _), Nat.add_sub_cancel_left]
  rfl

theorem numberAt?_append (i count : Nat) :
    numberAt? (front ++ b) (front.length + i) count = numberAt? b i count := by
  induction count with
  | zero => rfl
  | succ count ih => simp only [numberAt?, ih, digitAt?, Nat.add_assoc, byteAt_append]

theorem drop_front (i : Nat) : (front ++ b).drop (front.length + i) = b.drop i := by
  rw [← List.drop_drop, List.drop_left]

/-- The same ending further back. -/
def ClockEnd.back (n : Nat) : ClockEnd → ClockEnd
  | .complete junk => .complete junk
  | .fractionAt position => .fractionAt (n + position)

theorem readParts?_append (stop parts p : Nat) (colons : Option Bool) :
    readParts? (front ++ b) (front.length + stop) parts (front.length + p) colons
      = (readParts? b stop parts p colons).map fun (values, ending) =>
        (values, ending.back front.length) := by
  induction parts generalizing p colons with
  | zero => rfl
  | succ parts ih =>
      simp only [readParts?, numberAt?_append, Nat.add_assoc, byteAt_append,
        Nat.add_le_add_iff_left, ih]
      cases numberAt? b p 2 with
      | none => rfl
      | some value =>
          dsimp only [Option.bind_eq_bind, Option.bind_some]
          split
          · rfl
          · split
            · cases readParts? b stop parts (p + 3) _ <;> rfl
            · split
              · rfl
              · split
                · rfl
                · cases readParts? b stop parts (p + 2) _ <;> rfl

theorem readFraction?_append (p stop : Nat) :
    readFraction? (front ++ b) (front.length + p) (front.length + stop)
      = readFraction? b p stop := by
  simp only [readFraction?, Nat.add_sub_add_left, numberAt?_append, Nat.add_assoc, byteAt_append,
    drop_front]

/-- Behind other bytes a clock is read as it is at the front. -/
theorem readClock?_append (p stop : Nat) :
    readClock? (front ++ b) (front.length + p) (front.length + stop) = readClock? b p stop := by
  unfold readClock?
  rw [readParts?_append]
  cases readParts? b stop 3 p none with
  | none => rfl
  | some read =>
      obtain ⟨values, ending⟩ := read
      cases ending with
      | complete junk => rfl
      | fractionAt q =>
          simp only [Option.map_some, Option.bind_eq_bind, Option.bind_some, ClockEnd.back,
            readFraction?_append]

end Behind

/-! ### Numbers of a fixed number of digits -/

section Numbers

variable {b : List UInt8} {i : Nat}

theorem digitAt_of_byte {d : Nat} (hb : byteAt b i = digitByte d) (h : d < 10) :
    digitAt? b i = some d := by
  unfold digitAt?
  simp only [hb, toNat_digitByte h]
  rw [if_pos (by omega)]
  congr
  omega

theorem numberAt_add_two {count x y : Nat} (hx : numberAt? b i count = some x)
    (hy : numberAt? b (i + count) 2 = some y) : numberAt? b i (count + 2) = some (x * 100 + y) := by
  simp only [numberAt?, Option.bind_eq_bind, Option.pure_def, Option.bind_some, Nat.zero_mul,
    Nat.zero_add, Nat.add_zero, hx] at hy ⊢
  rcases hd : digitAt? b (i + count) with _ | d <;> rw [hd] at hy
  · exact absurd hy (by simp)
  · rcases he : digitAt? b (i + count + 1) with _ | e <;> rw [he] at hy
    · exact absurd hy (by simp)
    · simp only [Option.bind_some, Option.some.injEq] at hy
      simp only [Option.bind_some, Option.some.injEq]
      omega

/-- Two digits of a number stand at a position. -/
def HasTwo (b : List UInt8) (i n : Nat) : Prop :=
  byteAt b i = digitByte (n / 10 % 10) ∧ byteAt b (i + 1) = digitByte (n % 10)

theorem numberAt_two {n : Nat} (h : HasTwo b i n) (hn : n < 100) : numberAt? b i 2 = some n := by
  have h1 := digitAt_of_byte h.1 (by omega)
  have h2 := digitAt_of_byte h.2 (by omega)
  simp only [numberAt?, Nat.add_zero, h1, h2, Option.bind_eq_bind, Option.bind_some,
    Option.pure_def, Option.some.injEq]
  omega

theorem numberAt_four {n : Nat} (h1 : HasTwo b i (n / 100)) (h2 : HasTwo b (i + 2) (n % 100))
    (hn : n < 10000) : numberAt? b i 4 = some n := by
  have := numberAt_add_two (numberAt_two h1 (by omega)) (numberAt_two h2 (by omega))
  rw [this]
  congr
  omega

theorem numberAt_six {n : Nat} (h1 : HasTwo b i (n / 10000))
    (h2 : HasTwo b (i + 2) (n / 100 % 100)) (h3 : HasTwo b (i + 4) (n % 100))
    (hn : n < 1000000) : numberAt? b i 6 = some n := by
  have hfour := numberAt_add_two (numberAt_two h1 (by omega)) (numberAt_two h2 (by omega))
  have := numberAt_add_two hfour (numberAt_two h3 (by omega))
  rw [this]
  congr
  omega

end Numbers

/-! ### Clocks -/

/-- How far a time is written out. -/
inductive ClockForm
  | minutes
  | seconds
  | micros
  deriving DecidableEq

namespace ClockForm

variable {form : ClockForm} {c : ClockTime} {rest : List UInt8}

/-- A time in this form. -/
def chars (c : ClockTime) : ClockForm → List Char
  | minutes => Text.twoDigits c.hour ++ ':' :: Text.twoDigits c.minute
  | seconds => Timestamp.clockText c
  | micros => Timestamp.clockText c ++ Timestamp.fractionText c.microsecond

/-- The bytes of a time in this form. -/
def bytes (c : ClockTime) : ClockForm → List UInt8
  | minutes => twoBytes c.hour ++ 58 :: twoBytes c.minute
  | seconds => twoBytes c.hour ++ 58 :: twoBytes c.minute ++ 58 :: twoBytes c.second
  | micros => twoBytes c.hour ++ 58 :: twoBytes c.minute ++ 58 :: twoBytes c.second ++
      46 :: (twoBytes (c.microsecond / 10000) ++ twoBytes (c.microsecond / 100 % 100) ++
        twoBytes (c.microsecond % 100))

/-- What this form leaves out is zero. -/
def Shows (c : ClockTime) : ClockForm → Prop
  | minutes => c.second = 0 ∧ c.microsecond = 0
  | seconds => c.microsecond = 0
  | micros => True

theorem encode_chars (c : ClockTime) (form : ClockForm) :
    (form.chars c).flatMap String.utf8EncodeChar = form.bytes c := by
  have hcolon : String.utf8EncodeChar ':' = [58] := by decide
  have hpoint : String.utf8EncodeChar '.' = [46] := by decide
  cases form <;>
    simp only [chars, bytes, Timestamp.clockText, Timestamp.fractionText, Text.sixDigits,
      List.flatMap_append, List.flatMap_cons, encode_twoDigits, hcolon, hpoint,
      List.cons_append, List.nil_append]

/-- A time stands at the front of a text. -/
theorem hasTwo_bytes (c : ClockTime) (form : ClockForm) (rest : List UInt8) :
    HasTwo (form.bytes c ++ rest) 0 c.hour ∧ HasTwo (form.bytes c ++ rest) 3 c.minute ∧
      byteAt (form.bytes c ++ rest) 2 = 58 := by
  cases form <;> exact ⟨⟨rfl, rfl⟩, ⟨rfl, rfl⟩, rfl⟩

theorem isByte_marks :
    isByte 45 '-' = true ∧ isByte 58 ':' = true ∧ isByte 46 ':' = false ∧ isByte 46 '.' = true := by
  decide

/-- **A time that is written out far enough is read back.**  The flag tells whether something
follows it. -/
theorem readClock?_bytes (hc : c.isValid = true) (hshows : form.Shows c)
    (hrest : digitSpan rest = 0) :
    readClock? (form.bytes c ++ rest) 0 (form.bytes c).length = some (c, byteAt rest 0 != 0) := by
  obtain ⟨hour, minute, second, microsecond⟩ := c
  simp only [ClockTime.isValid, Bool.and_eq_true, decide_eq_true_eq] at hc
  obtain ⟨⟨⟨hh, hn⟩, hs⟩, hf⟩ := hc
  obtain ⟨hhour, hminute, hcolon⟩ := hasTwo_bytes ⟨hour, minute, second, microsecond⟩ form rest
  have hhour := numberAt_two hhour (by dsimp only; omega)
  have hminute := numberAt_two hminute (by dsimp only; omega)
  dsimp only at hhour hminute
  cases form with
  | minutes =>
      obtain ⟨rfl, rfl⟩ := hshows
      have hnext : byteAt (bytes ⟨hour, minute, 0, 0⟩ minutes ++ rest) 5 = byteAt rest 0 := rfl
      have hparts : readParts? (bytes ⟨hour, minute, 0, 0⟩ minutes ++ rest) 5 3 0 none
          = some ([hour, minute], .complete (byteAt rest 0 != 0)) := by
        simp [readParts?, hhour, hminute, hcolon, hnext, isByte_marks]
      show readClock? _ 0 5 = _
      simp [readClock?, hparts]
  | seconds =>
      obtain rfl := hshows
      have hsecond : numberAt? (bytes ⟨hour, minute, second, 0⟩ seconds ++ rest) 6 2
          = some second := numberAt_two ⟨rfl, rfl⟩ (by omega)
      have hcolon' : byteAt (bytes ⟨hour, minute, second, 0⟩ seconds ++ rest) 5 = 58 := rfl
      have hnext : byteAt (bytes ⟨hour, minute, second, 0⟩ seconds ++ rest) 8 = byteAt rest 0 :=
        rfl
      have hparts : readParts? (bytes ⟨hour, minute, second, 0⟩ seconds ++ rest) 8 3 0 none
          = some ([hour, minute, second], .complete (byteAt rest 0 != 0)) := by
        simp [readParts?, hhour, hminute, hsecond, hcolon, hcolon', hnext, isByte_marks]
      show readClock? _ 0 8 = _
      simp [readClock?, hparts]
  | micros =>
      let b := bytes ⟨hour, minute, second, microsecond⟩ micros ++ rest
      have hsecond : numberAt? b 6 2 = some second := numberAt_two ⟨rfl, rfl⟩ (by omega)
      have hfraction : numberAt? b 9 6 = some microsecond :=
        numberAt_six ⟨rfl, rfl⟩ ⟨rfl, rfl⟩ ⟨rfl, rfl⟩ hf
      have hmarks : byteAt b 5 = 58 ∧ byteAt b 8 = 46 := ⟨rfl, rfl⟩
      have hspan : digitSpan (b.drop 15) = 0 := hrest
      have hnext : byteAt b 15 = byteAt rest 0 := rfl
      have hparts : readParts? b 15 3 0 none = some ([hour, minute, second], .fractionAt 9) := by
        simp [readParts?, b, hhour, hminute, hcolon]
        simp [hsecond, hmarks, isByte_marks, b]
      have hmicros : readFraction? b 9 15 = some (microsecond, byteAt rest 0 != 0) := by
        simp [readFraction?, hfraction, hspan, hnext]
      show readClock? b 0 15 = _
      simp [readClock?, hparts, hmicros]

end ClockForm

/-! ### Dates -/

section Dates

variable {d : CivilDate} {rest : List UInt8}

/-- The bytes of a date with hyphens. -/
def dateBytes (d : CivilDate) : List UInt8 :=
  twoBytes (d.year / 100) ++ twoBytes (d.year % 100) ++ 45 :: twoBytes d.month ++
    45 :: twoBytes d.day

theorem encode_dateText (d : CivilDate) :
    (Timestamp.dateText d).flatMap String.utf8EncodeChar = dateBytes d := by
  have hdash : String.utf8EncodeChar '-' = [45] := by decide
  simp only [Timestamp.dateText, Text.fourDigits, dateBytes, List.flatMap_append,
    List.flatMap_cons, encode_twoDigits, hdash, List.cons_append, List.nil_append]

theorem byteAt_date : byteAt (dateBytes d ++ 84 :: rest) 4 = 45 ∧
    byteAt (dateBytes d ++ 84 :: rest) 7 = 45 ∧ byteAt (dateBytes d ++ 84 :: rest) 10 = 84 ∧
    isByte (byteAt (dateBytes d ++ 84 :: rest) 5) 'W' = false :=
  ⟨rfl, rfl, rfl, isByte_digitByte (Nat.mod_lt _ (by decide)) (by decide)⟩

theorem separatorPosition?_bytes (d : CivilDate) (rest : List UInt8) :
    separatorPosition? (dateBytes d ++ 84 :: rest) = some 10 := by
  have hlength : (dateBytes d ++ 84 :: rest).length = rest.length + 11 := by
    rw [List.length_append, List.length_cons]
    show 10 + _ = _
    omega
  have hlong : ¬ rest.length + 11 < 7 ∧ ¬ rest.length + 11 = 7 := by omega
  simp [separatorPosition?, hlength, hlong, byteAt_date, ClockForm.isByte_marks]

theorem readDate?_bytes (hy : d.year < 10000) (hm : d.month < 100) (hd : d.day < 100) :
    readDate? (dateBytes d ++ 84 :: rest) 10 = some d := by
  have hyear : numberAt? (dateBytes d ++ 84 :: rest) 0 4 = some d.year :=
    numberAt_four ⟨rfl, rfl⟩ ⟨rfl, rfl⟩ hy
  have hmonth : numberAt? (dateBytes d ++ 84 :: rest) 5 2 = some d.month :=
    numberAt_two ⟨rfl, rfl⟩ hm
  have hday : numberAt? (dateBytes d ++ 84 :: rest) 8 2 = some d.day := numberAt_two ⟨rfl, rfl⟩ hd
  simp [readDate?, hyear, hmonth, hday, byteAt_date, ClockForm.isByte_marks]

end Dates

/-! ### Offsets -/

/-- The shortest form that leaves out nothing but zeros. -/
def ClockForm.shortest (c : ClockTime) : ClockForm :=
  if c.second = 0 ∧ c.microsecond = 0 then minutes
  else if c.microsecond = 0 then seconds
  else micros

theorem ClockForm.shows_shortest (c : ClockTime) : (shortest c).Shows c := by
  unfold shortest
  split
  · assumption
  · split
    · assumption
    · trivial

theorem offsetText_eq (o : Int) : Timestamp.offsetText o = (if o < 0 then '-' else '+') ::
    (ClockForm.shortest (.ofMicros o.natAbs)).chars (.ofMicros o.natAbs) := by
  let c := ClockTime.ofMicros o.natAbs
  unfold Timestamp.offsetText ClockForm.shortest Timestamp.shortFractionText
  by_cases hwhole : c.second = 0 ∧ c.microsecond = 0
  · rw [if_pos hwhole, if_pos hwhole]
    rfl
  · rw [if_neg hwhole, if_neg hwhole]
    by_cases hseconds : c.microsecond = 0
    · rw [if_pos hseconds, if_pos hseconds]
      simp [ClockForm.chars, Timestamp.clockText]
    · rw [if_neg hseconds, if_neg hseconds]
      simp [ClockForm.chars, Timestamp.clockText]

/-- The sign of an offset. -/
def signByte (o : Int) : UInt8 := if o < 0 then 45 else 43

theorem isByte_signByte (o : Int) : isByte (signByte o) '-' = decide (o < 0) := by
  unfold signByte
  split <;> simp_all [isByte]

/-- The bytes of an offset. -/
def offsetBytes (o : Int) : List UInt8 :=
  signByte o :: (ClockForm.shortest (.ofMicros o.natAbs)).bytes (.ofMicros o.natAbs)

theorem encode_offsetText (o : Int) :
    (Timestamp.offsetText o).flatMap String.utf8EncodeChar = offsetBytes o := by
  have hsigns : String.utf8EncodeChar '-' = [45] ∧ String.utf8EncodeChar '+' = [43] := by decide
  rw [offsetText_eq, offsetBytes, signByte, List.flatMap_cons, ClockForm.encode_chars]
  split <;> simp [hsigns]

/-- The offset that is heard when one is read: less than a second is taken for nothing. -/
def heardOffset (o : Int) : Int := if o.natAbs < 1000000 then 0 else o

theorem readOffset?_bytes (front : List UInt8) {o : Int} (ho : o.natAbs < microsPerDay) :
    readOffset? (front ++ offsetBytes o) front.length = some (heardOffset o) := by
  let c := ClockTime.ofMicros o.natAbs
  have hmicros : c.micros = o.natAbs := ClockTime.micros_ofMicros _
  have hclock : readClock? (front ++ offsetBytes o) (front.length + 1)
      (front ++ offsetBytes o).length = some (c, false) := by
    have hread := ClockForm.readClock?_bytes (ClockTime.isValid_ofMicros ho)
      (ClockForm.shows_shortest c) (show digitSpan [] = 0 from rfl)
    rw [← readClock?_append (front ++ [signByte o]), List.append_nil, List.append_assoc,
      ← List.length_append, List.append_assoc, List.length_append] at hread
    exact hread
  have hminus : isByte (byteAt (front ++ offsetBytes o) front.length) '-' = decide (o < 0) := by
    rw [← Nat.add_zero front.length, byteAt_append]
    exact isByte_signByte o
  unfold readOffset? heardOffset
  rw [hclock, Option.bind_eq_bind, Option.bind_some]
  dsimp only
  rw [if_neg Bool.false_ne_true, hmicros, if_neg (Nat.not_le.mpr ho), hminus]
  by_cases hshort : o.natAbs < 1000000
  · rw [if_pos hshort, if_pos hshort]
    rfl
  · rw [if_neg hshort, if_neg hshort]
    by_cases hneg : o < 0
    · rw [if_pos (decide_eq_true hneg), Int.ofNat_natAbs_of_nonpos (Int.le_of_lt hneg),
        Int.neg_neg]
      rfl
    · rw [if_neg (by simpa using hneg), Int.natAbs_of_nonneg (Int.not_lt.mp hneg)]
      rfl

/-! ### Timestamps -/

/-- The bytes of an offset, if there is one. -/
def zoneBytes : Option Int → List UInt8
  | some o => offsetBytes o
  | none => []

/-- A byte that begins an offset. -/
def isSign (x : UInt8) : Bool := isByte x '+' || isByte x '-'

theorem isSign_bytes {c : ClockTime} {form : ClockForm} {x : UInt8} (h : x ∈ form.bytes c) :
    isSign x = false := by
  have hdigit : ∀ {n : Nat} {x : UInt8}, x ∈ twoBytes n → isSign x = false := by
    intro n x hx
    simp only [twoBytes, List.mem_cons, List.not_mem_nil, or_false] at hx
    rcases hx with rfl | rfl
    all_goals
      simp [isSign, isByte_digitByte (Nat.mod_lt _ (by decide : 0 < 10))]
  have hmarks : isSign 58 = false ∧ isSign 46 = false := by decide
  cases form <;> simp only [ClockForm.bytes, List.mem_append, List.mem_cons] at h <;>
    grind

theorem zoneBytes_front (zone : Option Int) :
    (zoneBytes zone).takeWhile (fun x => !isSign x) = [] ∧ digitSpan (zoneBytes zone) = 0 := by
  cases zone with
  | none => exact ⟨rfl, rfl⟩
  | some o =>
      unfold zoneBytes offsetBytes signByte
      dsimp only
      split <;> exact ⟨rfl, rfl⟩

theorem offsetPosition_bytes (front : List UInt8) (c : ClockTime) (form : ClockForm)
    (zone : Option Int) : offsetPosition (front ++ (form.bytes c ++ zoneBytes zone)) front.length
      = front.length + (form.bytes c).length := by
  show front.length + ((List.drop _ _).takeWhile fun x => !isSign x).length = _
  rw [List.drop_left, List.takeWhile_append_of_pos fun x hx => by simp [isSign_bytes hx],
    (zoneBytes_front zone).1, List.append_nil]

/-- **What is written is read**, but for the offsets that are not heard. -/
theorem readIsoBytes?_bytes {d : CivilDate} {c : ClockTime} {form : ClockForm}
    {zone : Option Int} (hd : d.year < 10000 ∧ d.month < 100 ∧ d.day < 100)
    (hc : c.isValid = true) (hshows : form.Shows c) (hzone : ∀ o ∈ zone, o.natAbs < microsPerDay) :
    readIsoBytes? (dateBytes d ++ 84 :: (form.bytes c ++ zoneBytes zone))
      = Timestamp.make? d c (zone.map heardOffset) := by
  let front := dateBytes d ++ [84]
  let b := dateBytes d ++ 84 :: (form.bytes c ++ zoneBytes zone)
  have hb : b = front ++ (form.bytes c ++ zoneBytes zone) := by simp [b, front]
  have hlength : b.length = front.length + (form.bytes c).length + (zoneBytes zone).length := by
    simp only [hb, List.length_append, Nat.add_assoc]
  have hseparator : separatorPosition? b = some 10 := separatorPosition?_bytes d _
  have hdate : readDate? b 10 = some d := readDate?_bytes hd.1 hd.2.1 hd.2.2
  have hstart : 10 + characterLength (byteAt b 10) = front.length := by
    rw [show byteAt b 10 = 84 from byteAt_date.2.2.1]
    rfl
  have hposition : offsetPosition b front.length = front.length + (form.bytes c).length := by
    rw [hb, offsetPosition_bytes]
  have hclock : readClock? b front.length (front.length + (form.bytes c).length)
      = some (c, byteAt (zoneBytes zone) 0 != 0) := by
    rw [hb, ← ClockForm.readClock?_bytes hc hshows (zoneBytes_front zone).2]
    exact readClock?_append front _ 0 _
  have hlong : 10 < b.length := by
    rw [hlength]
    exact Nat.lt_of_lt_of_le (by decide : 10 < 11) (Nat.le_add_right_of_le (Nat.le_add_right 11 _))
  show readIsoBytes? b = _
  simp only [readIsoBytes?, hseparator, hdate, Option.bind_eq_bind, Option.bind_some, if_pos hlong,
    hstart, hposition, hclock]
  cases zone with
  | none =>
      have hend : (byteAt (zoneBytes none) 0 != 0) = false := by decide
      rw [if_neg (by rw [hlength]; exact Nat.lt_irrefl _), hend, if_neg Bool.false_ne_true]
      rfl
  | some o =>
      have hoffset : readOffset? b (front.length + (form.bytes c).length)
          = some (heardOffset o) := by
        rw [hb, ← List.append_assoc, ← List.length_append]
        exact readOffset?_bytes _ (hzone o rfl)
      rw [if_pos (by rw [hlength]; exact Nat.lt_add_of_pos_right (Nat.succ_pos _)), hoffset]
      exact Option.bind_some _ _

end Calendar

end UsageLedger
