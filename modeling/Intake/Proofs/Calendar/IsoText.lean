import Intake.Calendar.Iso
import Intake.Proofs.Number.Text

/-!
# ISO text is read back

What a date or a point in time is written as consists of ASCII characters, each of them one byte, and
is read part by part. Main statements: a date is read back from its text, and so is a point in time,
but for an offset of less than a second, which is read as that of universal time.
-/

namespace Intake

open IsoReader

/-- The bytes of a text of ASCII characters. -/
def asciiBytes (cs : List Char) : List UInt8 := cs.map byte

section Bytes

variable {c : Char} {cs cs' : List Char}

@[simp]
theorem asciiBytes_nil : asciiBytes [] = [] := rfl

@[simp]
theorem asciiBytes_cons : asciiBytes (c :: cs) = byte c :: asciiBytes cs := rfl

@[simp]
theorem asciiBytes_append : asciiBytes (cs ++ cs') = asciiBytes cs ++ asciiBytes cs' :=
  List.map_append

@[simp]
theorem length_asciiBytes : (asciiBytes cs).length = cs.length :=
  List.length_map byte

end Bytes

/-- What is listed of an array of bytes from an index on comes behind what was listed before. -/
theorem byteArray_toList_loop (bytes : ByteArray) (i : Nat) (listed : List UInt8) :
    ByteArray.toList.loop bytes i listed = listed.reverse ++ bytes.data.toList.drop i := by
  fun_induction ByteArray.toList.loop bytes i listed with
  | case1 i listed hlt ih =>
    have hi : i < bytes.data.toList.length := by simpa using hlt
    have hget : bytes.get! i = bytes.data.toList[i] := by
      simp [ByteArray.get!, hlt]
    rw [ih, List.drop_eq_getElem_cons hi, hget]
    simp
  | case2 i listed hge =>
    rw [List.drop_eq_nil_of_le (by simpa using Nat.le_of_not_lt hge), List.append_nil]

theorem byteArray_toList (bytes : ByteArray) : bytes.toList = bytes.data.toList := by
  rw [ByteArray.toList, byteArray_toList_loop]
  rfl

/-- A text of ASCII characters is encoded as one byte for each of them. -/
theorem toUTF8_toList_of_ascii {cs : List Char} (h : ∀ c ∈ cs, c.toNat < 128) :
    (String.ofList cs).toUTF8.toList = asciiBytes cs := by
  have hone : ∀ c ∈ cs, String.utf8EncodeChar c = [byte c] := by
    intro c hc
    have hsize : c.utf8Size = 1 := by
      have hlt := h c hc
      rw [Char.utf8Size_eq_one_iff, UInt32.le_iff_toNat_le]
      exact Nat.le_of_lt_succ hlt
    rw [String.utf8EncodeChar_eq_singleton hsize]
    rfl
  rw [String.toUTF8_eq_toByteArray, String.toByteArray_ofList, byteArray_toList, List.utf8Encode,
    List.toList_data_toByteArray, List.flatMap_def, List.map_congr_left hone, ← List.flatMap_def]
  exact List.map_eq_flatMap.symm

section Digits

/-- The byte of a digit is read as the digit. -/
theorem digit?_byte_digitCharacter : ∀ d < 10, digit? (byte (digitCharacter d)) = some d := by decide

/-- Digits are taken one by one, each of them for the place below the one before. -/
theorem takeDigits?_append {digits : List Nat} (h : ∀ d ∈ digits, d < 10) (n : Nat)
    (rest : List UInt8) :
    takeDigits? n digits.length (asciiBytes (digits.map digitCharacter) ++ rest) =
      some (digits.foldl (fun n d => n * 10 + d) n, rest) := by
  induction digits generalizing n with
  | nil => rfl
  | cons d others ih =>
    obtain ⟨hd, hothers⟩ := List.forall_mem_cons.mp h
    simp only [List.map_cons, List.length_cons, asciiBytes_cons, List.cons_append, takeDigits?,
      digit?_byte_digitCharacter d hd, Option.bind_some, ih hothers, List.foldl_cons]

/-- A number below a power of ten has as many digits at most. -/
theorem length_digitsOnto_le {width n : Nat} (hw : 1 ≤ width) (h : n < 10 ^ width) :
    (digitsOnto n []).length ≤ width := by
  induction width, hw using Nat.le_induction generalizing n with
  | base =>
    have hn : n < 10 := by omega
    rw [digitsOnto, if_pos hn]
    exact le_rfl
  | succ width hw ih =>
    rw [digitsOnto]
    split
    · simp
    · rw [digitsOnto_append, List.length_append]
      exact Nat.add_le_add_right (ih (by omega)) 1

/-- The digits of a number with zeros in front of them. -/
def paddedDigits (width n : Nat) : List Nat :=
  let digits := digitsOnto n []
  List.replicate (width - digits.length) 0 ++ digits

theorem paddedText_eq_map (width n : Nat) :
    paddedText width n = (paddedDigits width n).map digitCharacter := by
  simp only [paddedText, paddedDigits, naturalText, List.length_map, List.map_append,
    List.map_replicate]
  rfl

theorem lt_ten_of_mem_paddedDigits (width n : Nat) : ∀ d ∈ paddedDigits width n, d < 10 := by
  intro d hd
  rcases List.mem_append.mp hd with hd | hd
  · rw [List.eq_of_mem_replicate hd]
    decide
  · exact lt_ten_of_mem_digitsOnto n d hd

theorem ofDigits_paddedDigits (width n : Nat) : ofDigits (paddedDigits width n) = n := by
  rw [paddedDigits, ofDigits_append, ofDigits_replicate, ofDigits_digitsOnto, Nat.zero_mul,
    Nat.zero_add]

theorem length_paddedDigits {width n : Nat} (hw : 1 ≤ width) (h : n < 10 ^ width) :
    (paddedDigits width n).length = width := by
  have hle := length_digitsOnto_le hw h
  rw [paddedDigits, List.length_append, List.length_replicate]
  omega

theorem length_paddedText {width n : Nat} (hw : 1 ≤ width) (h : n < 10 ^ width) :
    (paddedText width n).length = width := by
  rw [paddedText_eq_map, List.length_map, length_paddedDigits hw h]

/-- What holds of all digits holds of all characters of a number. -/
theorem forall_mem_paddedText {P : Char → Prop} (h : ∀ d < 10, P (digitCharacter d))
    (width n : Nat) : ∀ c ∈ paddedText width n, P c := by
  rw [paddedText_eq_map]
  exact List.forall_mem_map.mpr fun d hd => h d (lt_ten_of_mem_paddedDigits width n d hd)

/-- A number that is padded to a width is taken from the start of a text. -/
theorem takeDigits?_paddedText {width n : Nat} (hw : 1 ≤ width) (h : n < 10 ^ width)
    (rest : List UInt8) :
    takeDigits? 0 width (asciiBytes (paddedText width n) ++ rest) = some (n, rest) := by
  have htake := takeDigits?_append (lt_ten_of_mem_paddedDigits width n) 0 rest
  rw [length_paddedDigits hw h, ← paddedText_eq_map] at htake
  rw [htake]
  exact congrArg (fun n => some (n, rest)) (ofDigits_paddedDigits width n)

end Digits

section Dates

theorem peek_cons (b : UInt8) (rest : List UInt8) : peek (b :: rest) = b := rfl

/-- A digit is none of the signs that stand between numbers. -/
theorem peek_paddedText_ne {width n : Nat} (hw : 1 ≤ width) (h : n < 10 ^ width) {sign : Char}
    (hsign : ∀ d < 10, byte (digitCharacter d) ≠ byte sign) (rest : List UInt8) :
    (peek (asciiBytes (paddedText width n) ++ rest) == byte sign) = false := by
  have hlength := length_paddedDigits hw h
  have hdigits := lt_ten_of_mem_paddedDigits width n
  rw [paddedText_eq_map]
  cases hcases : paddedDigits width n with
  | nil => rw [hcases, List.length_nil] at hlength; omega
  | cons d others =>
    rw [hcases] at hdigits
    exact beq_false_of_ne (hsign d (hdigits d List.mem_cons_self))

theorem Date.lt_of_valid (d : Date) : d.year < 10 ^ 4 ∧ d.month < 10 ^ 2 ∧ d.day < 10 ^ 2 := by
  obtain ⟨-, hyear, -, hmonth, -, hday⟩ := d.valid
  have hcommon : ∀ month ≤ 12, daysBeforeMonth (month + 1) - daysBeforeMonth month ≤ 31 := by decide
  have hdays : daysInMonth d.year d.month ≤ 31 := by
    unfold daysInMonth
    split
    · decide
    · exact hcommon d.month hmonth
  omega

/-- A date is read back from the start of a text. -/
theorem date?_isoText (d : Date) (length : Nat) (rest : List UInt8) :
    IsoReader.date? length (asciiBytes d.isoText ++ rest) = some d := by
  obtain ⟨hyear, hmonth, hday⟩ := d.lt_of_valid
  have hweek : (peek (asciiBytes (paddedText 2 d.month) ++
      (byte '-' :: (asciiBytes (paddedText 2 d.day) ++ rest))) == byte 'W') = false :=
    peek_paddedText_ne (by decide) hmonth (by decide) _
  simp only [Date.isoText, asciiBytes_append, asciiBytes_cons, List.append_assoc, List.cons_append]
  unfold IsoReader.date?
  rw [takeDigits?_paddedText (by decide) hyear]
  simp only [Option.bind_eq_bind, Option.bind_some, peek_cons, beq_self_eq_true, if_true, List.drop_succ_cons,
    List.drop_zero]
  rw [if_neg (by rw [hweek]; decide), takeDigits?_paddedText (by decide) hmonth]
  simp only [Option.bind_some, peek_cons, beq_self_eq_true, if_true, List.drop_succ_cons, List.drop_zero]
  rw [takeDigits?_paddedText (by decide) hday]
  exact Date.of?_self d

end Dates

section Times

variable {n microsecond : Nat}

/-- A number with a colon and more behind it is a part of a time of day, and more parts follow. -/
theorem parts?_colon (hn : n < 10 ^ 2) (following : List UInt8) {colons : Bool} {parts : List Nat}
    (hcolons : parts = [] ∨ colons = true) (count : Nat) {tail : List UInt8} (htail : tail ≠ []) :
    parts? following colons parts (count + 1)
        (asciiBytes (paddedText 2 n) ++ byte ':' :: tail) =
      parts? following true (parts ++ [n]) count tail := by
  have hlength : ¬ (byte ':' :: tail).length ≤ 1 := by
    have hpos := List.length_pos_iff.mpr htail
    rw [List.length_cons]
    omega
  have hagain : (if (parts ++ [n]).length = 1 then true else colons) = true := by
    rcases hcolons with rfl | rfl
    · rfl
    · exact ite_self true
  rw [parts?, takeDigits?_paddedText (by decide) hn]
  simp only [Option.bind_eq_bind, Option.bind_some, List.cons_append, peek_cons, beq_self_eq_true,
    hagain, if_neg hlength, Bool.and_self, if_true, List.drop_succ_cons, List.drop_zero]

/-- A number at the end of a text is the last part of a time of day. -/
theorem parts?_end (hn : n < 10 ^ 2) (following : List UInt8) (colons : Bool) (parts : List Nat)
    (count : Nat) : parts? following colons parts (count + 1) (asciiBytes (paddedText 2 n)) =
      some ⟨parts ++ [n], 0, peek following != 0⟩ := by
  have htake := takeDigits?_paddedText (by decide : 1 ≤ 2) hn []
  rw [List.append_nil] at htake
  rw [parts?, htake]
  simp

/-- A number with a fraction behind it is the last part of a time of day. -/
theorem parts?_fraction (hn : n < 10 ^ 2) (hm : microsecond < 10 ^ 6) (following : List UInt8)
    (colons : Bool) (parts : List Nat) (count : Nat) :
    parts? following colons parts (count + 1)
        (asciiBytes (paddedText 2 n) ++ byte '.' :: asciiBytes (paddedText 6 microsecond)) =
      some ⟨parts ++ [n], microsecond, peek following != 0⟩ := by
  have hlength : (asciiBytes (paddedText 6 microsecond)).length = 6 := by
    rw [length_asciiBytes, length_paddedText (by decide) hm]
  have htake := takeDigits?_paddedText (by decide : 1 ≤ 6) hm []
  rw [List.append_nil] at htake
  have hfraction (parts : List Nat) :
      fraction? parts (asciiBytes (paddedText 6 microsecond)) following =
        some ⟨parts, microsecond, peek following != 0⟩ := by
    rw [fraction?, hlength]
    simp [htake]
  have hsign : byte '.' ≠ byte ':' := by decide
  rw [parts?, takeDigits?_paddedText (by decide) hn]
  simp [peek_cons, hlength, hsign, hfraction]

/-- Seconds are the last part of a time of day, with a fraction behind them or without one. -/
theorem parts?_second (hn : n < 10 ^ 2) (hm : microsecond < 10 ^ 6) (following : List UInt8)
    (colons : Bool) (parts : List Nat) (count : Nat) :
    parts? following colons parts (count + 1)
        (asciiBytes (paddedText 2 n ++ fractionText microsecond)) =
      some ⟨parts ++ [n], microsecond, peek following != 0⟩ := by
  unfold fractionText
  split
  · rename_i hzero
    rw [hzero, List.append_nil]
    exact parts?_end hn following colons parts count
  · rw [asciiBytes_append, asciiBytes_cons]
    exact parts?_fraction hn hm following colons parts count

/-- Two numbers with a colon between them and two numbers and a fraction are read as times of day. -/
theorem timeParts?_hourMinute {hour minute : Nat} (hh : hour < 10 ^ 2) (hm : minute < 10 ^ 2)
    (following : List UInt8) :
    timeParts? (asciiBytes (paddedText 2 hour ++ ':' :: paddedText 2 minute)) following =
      some ⟨[hour, minute], 0, peek following != 0⟩ := by
  have hne : asciiBytes (paddedText 2 minute) ≠ [] := by
    rw [← List.length_pos_iff, length_asciiBytes, length_paddedText (by decide) hm]
    decide
  rw [timeParts?, asciiBytes_append, asciiBytes_cons, parts?_colon hh following (.inl rfl) 2 hne,
    parts?_end hm]
  rfl

theorem timeParts?_second {hour minute second : Nat} (hh : hour < 10 ^ 2) (hm : minute < 10 ^ 2)
    (hs : second < 10 ^ 2) (hmicrosecond : microsecond < 10 ^ 6) (following : List UInt8) :
    timeParts? (asciiBytes (paddedText 2 hour ++ ':' :: (paddedText 2 minute ++
        ':' :: (paddedText 2 second ++ fractionText microsecond)))) following =
      some ⟨[hour, minute, second], microsecond, peek following != 0⟩ := by
  have hne : asciiBytes (paddedText 2 second ++ fractionText microsecond) ≠ [] := by
    rw [← List.length_pos_iff, length_asciiBytes, List.length_append,
      length_paddedText (by decide) hs]
    omega
  rw [timeParts?, asciiBytes_append, asciiBytes_cons,
    parts?_colon hh following (.inl rfl) 2 (by simp), asciiBytes_append, asciiBytes_cons,
    parts?_colon hm following (.inr rfl) 1 hne, parts?_second hs hmicrosecond]
  rfl

/-- The offset that is read where an offset is written: one of less than a second is read as that of
universal time. -/
def readOffset (offset : Int) : Int := if offset.natAbs < 1000000 then 0 else offset

/-- The number of whole seconds and the rest of the microseconds make up an offset with its sign. -/
theorem ite_eq_readOffset (offset : Int) :
    (if offset.natAbs / 1000000 = 0 then some 0
      else some (if (byte (if offset < 0 then '-' else '+') == byte '-') = true then
        -((offset.natAbs / 1000000 * 1000000 + offset.natAbs % 1000000 : Nat) : Int)
      else ((offset.natAbs / 1000000 * 1000000 + offset.natAbs % 1000000 : Nat) : Int))) =
      some (readOffset offset) := by
  have hminus : (byte '-' == byte '-') = true := by decide
  have hplus : (byte '+' == byte '-') = false := by decide
  simp only [Nat.div_add_mod', readOffset, Nat.div_eq_zero_iff_lt (by decide : 0 < 1000000)]
  split
  · rfl
  · by_cases hneg : offset < 0
    · rw [if_pos hneg, if_pos hminus, Int.ofNat_natAbs_of_nonpos (by omega), neg_neg]
    · rw [if_neg hneg, hplus, if_neg (by decide), Int.natAbs_of_nonneg (by omega)]

/-- An offset is read back. -/
theorem offset?_offsetText {offset : Int} (h : offset.natAbs < microsecondsPerDay) :
    offset? (asciiBytes (offsetText offset)) = some (readOffset offset) := by
  rw [← ite_eq_readOffset]
  have hsign : (byte (if offset < 0 then '-' else '+') == byte 'Z') = false := by
    split <;> decide
  unfold microsecondsPerDay at h
  generalize hseconds : offset.natAbs / 1000000 = seconds
  generalize hpart : offset.natAbs % 1000000 = part
  have hhour : seconds / 3600 < 10 ^ 2 := by omega
  have hminute : seconds / 60 % 60 < 10 ^ 2 := by omega
  have hsecond : seconds % 60 < 10 ^ 2 := by omega
  have hfraction : part < 10 ^ 6 := by omega
  by_cases hshort : seconds % 60 = 0 ∧ part = 0
  · have htext : offsetText offset = (if offset < 0 then '-' else '+') ::
        (paddedText 2 (seconds / 3600) ++ ':' :: paddedText 2 (seconds / 60 % 60)) := by
      simp only [offsetText, hseconds, hpart, if_pos hshort, List.append_nil, List.cons_append]
    have hsize : seconds / 3600 * 3600 + seconds / 60 % 60 * 60 = seconds := by omega
    rw [htext, asciiBytes_cons, offset?, peek_cons, hsign, if_neg (by decide), List.drop_succ_cons,
      List.drop_zero, timeParts?_hourMinute hhour hminute]
    simp only [Option.bind_eq_bind, Option.bind_some, hsize, hshort.2]
    rfl
  · have htext : offsetText offset = (if offset < 0 then '-' else '+') ::
        (paddedText 2 (seconds / 3600) ++ ':' :: (paddedText 2 (seconds / 60 % 60) ++
          ':' :: (paddedText 2 (seconds % 60) ++ fractionText part))) := by
      simp only [offsetText, hseconds, hpart, if_neg hshort, List.append_assoc, List.cons_append]
    have hsize : seconds / 3600 * 3600 + seconds / 60 % 60 * 60 + seconds % 60 = seconds := by omega
    rw [htext, asciiBytes_cons, offset?, peek_cons, hsign, if_neg (by decide), List.drop_succ_cons,
      List.drop_zero, timeParts?_second hhour hminute hsecond hfraction]
    simp only [Option.bind_eq_bind, Option.bind_some, hsize]
    rfl

end Times

/-- A time of day whose offset is read where it is written. -/
def ClockTime.readBack (t : ClockTime) : ClockTime :=
  { t with
    offset := t.offset.map readOffset
    valid := by
      obtain ⟨hhour, hminute, hsecond, hmicrosecond, hoffset⟩ := t.valid
      refine ⟨hhour, hminute, hsecond, hmicrosecond, fun o ho => ?_⟩
      obtain ⟨written, hwritten, rfl⟩ := Option.map_eq_some_iff.mp ho
      unfold readOffset
      split
      · decide
      · exact hoffset written hwritten }

/-- A point in time whose offset is read where it is written. -/
def DateTime.readBack (t : DateTime) : DateTime := ⟨t.date, t.time.readBack⟩

/-- A point in time whose offset, if there is one, is no time or a second at least is read back as it
is. -/
theorem DateTime.readBack_eq_self {t : DateTime}
    (h : ∀ offset ∈ t.time.offset, offset = 0 ∨ 1000000 ≤ offset.natAbs) : t.readBack = t := by
  obtain ⟨date, hour, minute, second, microsecond, offset, valid⟩ := t
  have hsame : offset.map readOffset = offset := by
    cases offset with
    | none => rfl
    | some offset =>
      have hkeeps := h offset rfl
      rw [Option.map_some, Option.some_inj, readOffset]
      split <;> omega
  simp only [readBack, ClockTime.readBack, hsame]

/-- What holds of digits and of a point holds of all characters of a fraction of a second. -/
theorem forall_mem_fractionText {P : Char → Prop} (h : ∀ d < 10, P (digitCharacter d))
    (hpoint : P '.') (microsecond : Nat) : ∀ c ∈ fractionText microsecond, P c := by
  unfold fractionText
  split
  · exact fun _ => nofun
  · exact List.forall_mem_cons.mpr ⟨hpoint, forall_mem_paddedText h 6 microsecond⟩

namespace ClockTime

/-- The text of a time of day up to its offset. -/
def clockText (t : ClockTime) : List Char :=
  paddedText 2 t.hour ++ ':' :: (paddedText 2 t.minute ++
    ':' :: (paddedText 2 t.second ++ fractionText t.microsecond))

theorem isoText_eq (t : ClockTime) :
    t.isoText = t.clockText ++ (t.offset.map offsetText).getD [] := by
  simp only [isoText, clockText, List.append_assoc, List.cons_append]

/-- What holds of digits, of a colon and of a point holds of all characters of a time of day up to its
offset. -/
theorem forall_mem_clockText {P : Char → Prop} (h : ∀ d < 10, P (digitCharacter d)) (hcolon : P ':')
    (hpoint : P '.') (t : ClockTime) : ∀ c ∈ t.clockText, P c := by
  simp only [clockText, List.forall_mem_append, List.forall_mem_cons]
  exact ⟨forall_mem_paddedText h 2 t.hour, hcolon, forall_mem_paddedText h 2 t.minute, hcolon,
    forall_mem_paddedText h 2 t.second, forall_mem_fractionText h hpoint t.microsecond⟩

/-- The part of a time of day that is read first ends where its offset starts. -/
theorem takeWhile_clockText (t : ClockTime) (tail : List UInt8)
    (htail : tail.takeWhile (!startsOffset ·) = []) :
    (asciiBytes t.clockText ++ tail).takeWhile (!startsOffset ·) = asciiBytes t.clockText ∧
      (asciiBytes t.clockText ++ tail).dropWhile (!startsOffset ·) = tail := by
  have hnone : ∀ b ∈ asciiBytes t.clockText, (!startsOffset b) = true :=
    List.forall_mem_map.mpr (t.forall_mem_clockText (by decide) (by decide) (by decide))
  have hdrop : tail.dropWhile (!startsOffset ·) = tail := by
    have happend := List.takeWhile_append_dropWhile (p := (!startsOffset ·)) (l := tail)
    rwa [htail, List.nil_append] at happend
  rw [List.takeWhile_append_of_pos hnone, List.dropWhile_append_of_pos hnone, htail, hdrop,
    List.append_nil]
  exact ⟨rfl, rfl⟩

/-- A time of day is read back. -/
theorem time?_isoText (t : ClockTime) :
    IsoReader.time? (asciiBytes t.isoText) = some t.readBack := by
  obtain ⟨hhour, hminute, hsecond, hmicrosecond, hoffset⟩ := t.valid
  have hreading (following : List UInt8) : timeParts? (asciiBytes t.clockText) following =
      some ⟨[t.hour, t.minute, t.second], t.microsecond, peek following != 0⟩ :=
    timeParts?_second (by omega) (by omega) (by omega) hmicrosecond following
  have hback : of? t.hour t.minute t.second t.microsecond (t.offset.map readOffset) =
      some t.readBack := of?_self t.readBack
  rw [isoText_eq, asciiBytes_append]
  cases ho : t.offset with
  | none =>
    obtain ⟨hhead, htail⟩ := t.takeWhile_clockText [] rfl
    simp only [Option.map_none, Option.getD_none, asciiBytes_nil]
    rw [IsoReader.time?, hhead, htail, hreading]
    rw [ho] at hback
    exact hback
  | some offset =>
    have hstarts : (asciiBytes (offsetText offset)).takeWhile (!startsOffset ·) = [] := by
      have hsign : startsOffset (byte (if offset < 0 then '-' else '+')) = true := by
        split <;> decide
      exact List.takeWhile_cons_of_neg (by rw [hsign]; decide)
    have hne : (asciiBytes (offsetText offset)).isEmpty = false := rfl
    obtain ⟨hhead, htail⟩ := t.takeWhile_clockText _ hstarts
    simp only [Option.map_some, Option.getD_some]
    rw [IsoReader.time?, hhead, htail, hreading, hne, offset?_offsetText (hoffset offset ho)]
    rw [ho] at hback
    exact hback

end ClockTime

/-- What holds of digits and of a hyphen holds of all characters of a date. -/
theorem Date.forall_mem_isoText {P : Char → Prop} (h : ∀ d < 10, P (digitCharacter d))
    (hhyphen : P '-') (d : Date) : ∀ c ∈ d.isoText, P c := by
  simp only [isoText, List.forall_mem_append, List.forall_mem_cons, List.append_assoc,
    List.cons_append]
  exact ⟨forall_mem_paddedText h 4 d.year, hhyphen, forall_mem_paddedText h 2 d.month, hhyphen,
    forall_mem_paddedText h 2 d.day⟩

/-- What holds of digits, of signs, of a colon and of a point holds of all characters of an offset. -/
theorem forall_mem_offsetText {P : Char → Prop} (h : ∀ d < 10, P (digitCharacter d))
    (hsigns : P '-' ∧ P '+') (hcolon : P ':') (hpoint : P '.') (offset : Int) :
    ∀ c ∈ offsetText offset, P c := by
  have hsign : P (if offset < 0 then '-' else '+') := by
    split
    · exact hsigns.1
    · exact hsigns.2
  have hseconds (seconds part : Nat) : ∀ c ∈ (if seconds = 0 ∧ part = 0 then [] else
      ':' :: paddedText 2 seconds ++ fractionText part), P c := by
    split
    · exact fun _ => nofun
    · rw [List.cons_append, List.forall_mem_cons, List.forall_mem_append]
      exact ⟨hcolon, forall_mem_paddedText h 2 _, forall_mem_fractionText h hpoint _⟩
  simp only [offsetText, List.forall_mem_append, List.forall_mem_cons, List.append_assoc,
    List.cons_append]
  exact ⟨hsign, forall_mem_paddedText h 2 _, hcolon, forall_mem_paddedText h 2 _, hseconds _ _⟩

/-- What holds of digits and of the signs between numbers holds of all characters of a point in
time. -/
theorem DateTime.forall_mem_isoText {P : Char → Prop} (h : ∀ d < 10, P (digitCharacter d))
    (hsigns : P '-' ∧ P '+' ∧ P ':' ∧ P '.' ∧ P 'T') (t : DateTime) : ∀ c ∈ t.isoText, P c := by
  obtain ⟨hminus, hplus, hcolon, hpoint, hletter⟩ := hsigns
  have hoffset : ∀ c ∈ (t.time.offset.map offsetText).getD [], P c := by
    cases t.time.offset with
    | none => exact fun _ => nofun
    | some offset => exact forall_mem_offsetText h ⟨hminus, hplus⟩ hcolon hpoint offset
  rw [isoText, isoTextWith, ClockTime.isoText_eq]
  simp only [List.forall_mem_append, List.forall_mem_cons]
  exact ⟨t.date.forall_mem_isoText h hminus, hletter,
    t.time.forall_mem_clockText h hcolon hpoint, hoffset⟩

section Texts

theorem Date.length_isoText (d : Date) : d.isoText.length = 10 := by
  obtain ⟨hyear, hmonth, hday⟩ := d.lt_of_valid
  simp only [isoText, List.length_append, List.length_cons]
  rw [length_paddedText (by decide) hyear, length_paddedText (by decide) hmonth,
    length_paddedText (by decide) hday]

theorem Date.length_asciiBytes_isoText (d : Date) : (asciiBytes d.isoText).length = 10 := by
  rw [length_asciiBytes, d.length_isoText]

/-- The bytes of a date. -/
theorem Date.toUTF8_isoText (d : Date) :
    (String.ofList d.isoText).toUTF8.toList = asciiBytes d.isoText :=
  toUTF8_toList_of_ascii (d.forall_mem_isoText (by decide) (by decide))

/-- The bytes of a point in time. -/
theorem DateTime.toUTF8_isoText (t : DateTime) :
    (String.ofList t.isoText).toUTF8.toList =
      asciiBytes t.date.isoText ++ byte 'T' :: asciiBytes t.time.isoText := by
  rw [toUTF8_toList_of_ascii (t.forall_mem_isoText (by decide) (by decide)), isoText, isoTextWith,
    asciiBytes_append, asciiBytes_cons]

/-- A date is read back from its text. -/
theorem readIsoDate?_isoText (d : Date) : readIsoDate? (String.ofList d.isoText) = some d := by
  have hread := date?_isoText d 10 []
  rw [List.append_nil] at hread
  rw [readIsoDate?, d.toUTF8_isoText]
  simp [d.length_asciiBytes_isoText, hread]

/-- A date at the start of a text has ten characters. -/
theorem dateLength?_isoText (d : Date) (rest : List UInt8) :
    dateLength? (asciiBytes d.isoText ++ rest) = some 10 := by
  obtain ⟨hyear, hmonth, hday⟩ := d.lt_of_valid
  have hlength : (asciiBytes d.isoText ++ rest).length ≠ 7 := by
    rw [List.length_append, d.length_asciiBytes_isoText]
    omega
  have hyears : (asciiBytes (paddedText 4 d.year)).length = 4 := by
    rw [length_asciiBytes, length_paddedText (by decide) hyear]
  -- The year ends at a hyphen, and a digit of the month follows it.
  have hdrop (n : Nat) : (asciiBytes d.isoText ++ rest).drop (4 + n) =
      (byte '-' :: (asciiBytes (paddedText 2 d.month) ++
        byte '-' :: (asciiBytes (paddedText 2 d.day) ++ rest))).drop n := by
    simp only [Date.isoText, asciiBytes_append, asciiBytes_cons, List.append_assoc, List.cons_append]
    rw [List.drop_append, hyears, List.drop_eq_nil_of_le (by omega), Nat.add_sub_cancel_left,
      List.nil_append]
  have hhyphen : peek ((asciiBytes d.isoText ++ rest).drop 4) = byte '-' := by
    rw [hdrop 0]
    rfl
  have hmonths : (peek ((asciiBytes d.isoText ++ rest).drop 5) == byte 'W') = false := by
    rw [hdrop 1]
    exact peek_paddedText_ne (by decide) hmonth (by decide) _
  simp only [dateLength?, if_neg hlength, hhyphen, beq_self_eq_true, if_true, hmonths]
  rfl

/-- Midnight of a date is read from its text. -/
theorem readIsoDateTime?_isoText_date (d : Date) :
    readIsoDateTime? (String.ofList d.isoText) = some (.ofDate d) := by
  have hread := date?_isoText d 10 []
  have hwhere := dateLength?_isoText d []
  rw [List.append_nil] at hread hwhere
  rw [readIsoDateTime?, d.toUTF8_isoText]
  simp [d.length_asciiBytes_isoText, hread, hwhere, DateTime.ofDate]

/-- The text of a point in time is too long for that of a date. -/
theorem readIsoDate?_isoText_dateTime (t : DateTime) :
    readIsoDate? (String.ofList t.isoText) = none := by
  rw [readIsoDate?, t.toUTF8_isoText]
  rw [List.length_append, t.date.length_asciiBytes_isoText, List.length_cons]
  exact if_neg (by omega)

/-- A point in time is read back from its text. -/
theorem readIsoDateTime?_isoText (t : DateTime) :
    readIsoDateTime? (String.ofList t.isoText) = some t.readBack := by
  have hlength := t.date.length_asciiBytes_isoText
  have hdrop : (asciiBytes t.date.isoText ++ byte 'T' :: asciiBytes t.time.isoText).drop 10 =
      byte 'T' :: asciiBytes t.time.isoText := by
    rw [← hlength, List.drop_left]
  have hletter : characterLength (byte 'T') = 1 := by decide
  rw [readIsoDateTime?, t.toUTF8_isoText]
  simp only [dateLength?_isoText, date?_isoText, hdrop, List.length_append, hlength,
    List.length_cons, Option.bind_eq_bind, Option.bind_some, peek_cons, hletter,
    List.drop_succ_cons, List.drop_zero, t.time.time?_isoText]
  rw [if_neg (by omega), if_neg (by omega)]
  rfl

end Texts

end Intake
