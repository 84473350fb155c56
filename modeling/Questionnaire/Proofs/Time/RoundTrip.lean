import Mathlib.Algebra.Group.Nat.Defs
import Questionnaire.Time.Reader

/-!
# Timestamps are read back

Every timestamp is read back from its text in the lenient form, leap seconds and years of more than
four digits included. In the strict form, which upload times are read in, years have four digits, so
a timestamp is read back if and only if it lies in one of the years 0 to 9999.
-/

namespace Questionnaire

namespace Date

theorem toList_padded (length value : Nat) :
    (padded length value).toList =
      List.replicate (length - (Nat.toDigits 10 value).length) '0' ++ Nat.toDigits 10 value := by
  simp only [padded, String.toList_append, String.toList_ofList, Nat.toString_eq_repr,
    ← String.length_toList, Nat.toList_repr]

theorem isDigit_padded (length value : Nat) :
    ∀ char ∈ (padded length value).toList, char.isDigit = true := by
  intro char member
  rw [toList_padded, List.mem_append] at member
  rcases member with zero | digit
  · rw [List.eq_of_mem_replicate zero]
    decide
  · exact Nat.isDigit_of_mem_toDigits (by decide) (by decide) digit

/-- A number that fits is written with so many digits. -/
theorem length_padded {length value : Nat} (positive : 0 < length) (fits : value < 10 ^ length) :
    (padded length value).toList.length = length := by
  have short : (Nat.toDigits 10 value).length ≤ length :=
    (Nat.length_toDigits_le_iff (by decide) positive).2 fits
  rw [toList_padded, List.length_append, List.length_replicate]
  omega

end Date

namespace Scan

variable {α β : Type}

/-- What follows a reader starts where the reader stopped. -/
theorem bind_eq {scan : Scan α} {next : α → Scan β} {input rest : List Char} {value : α}
    (taken : scan input = some (value, rest)) : (scan >>= next) input = next value rest := by
  simp only [bind, StateT.bind, taken, Option.bind_some]

theorem bind_eq_none {scan : Scan α} {next : α → Scan β} {input : List Char}
    (refused : scan input = none) : (scan >>= next) input = none := by
  simp only [bind, StateT.bind, refused, Option.bind_none]

theorem get_eq (input : List Char) : (get : Scan (List Char)) input = some (input, input) := rfl

theorem set_eq (rest input : List Char) : (set rest : Scan Unit) input = some ((), rest) := rfl

/-- The text does not go on with a digit. -/
def EndsNumber (rest : List Char) : Prop :=
  ∀ char ∈ rest.head?, char.isDigit = false

theorem endsNumber_nil : EndsNumber [] :=
  nofun

theorem endsNumber_cons {char : Char} (stops : char.isDigit = false) (rest : List Char) :
    EndsNumber (char :: rest) := by
  intro other isHead
  rw [← Option.some.inj isHead]
  exact stops

theorem digitsValue_eq (digits : List Char) :
    digitsValue digits = Nat.ofDigitChars 10 digits 0 := by
  simp only [digitsValue, Nat.ofDigitChars_eq_foldl, Nat.mul_comm]

@[simp] theorem digitsValue_padded (length value : Nat) :
    digitsValue (Date.padded length value).toList = value := by
  rw [digitsValue_eq, Date.toList_padded, Nat.ofDigitChars_append, Nat.ofDigitChars_replicate_zero,
    Nat.mul_zero, Nat.ofDigitChars_ten_toDigits]

/-- A run of digits ends where the digits end. -/
theorem takeWhile_digits {digits rest : List Char} (isDigit : ∀ char ∈ digits, char.isDigit = true)
    (ended : EndsNumber rest) :
    (digits ++ rest).takeWhile Char.isDigit = digits ∧
      (digits ++ rest).dropWhile Char.isDigit = rest := by
  induction digits with
  | nil =>
    cases rest with
    | nil => exact ⟨rfl, rfl⟩
    | cons char rest =>
      have stops : char.isDigit = false := ended char rfl
      simp [stops]
  | cons digit digits inductionHypothesis =>
    have here : digit.isDigit = true := isDigit digit List.mem_cons_self
    obtain ⟨taken, dropped⟩ :=
      inductionHypothesis fun char member => isDigit char (List.mem_cons_of_mem digit member)
    simp only [List.cons_append, List.takeWhile_cons, List.dropWhile_cons, here, if_true, taken,
      dropped, and_self]

/-- A number is read back when all the digits that may be taken are there. -/
theorem number_padded {least length value : Nat} (enough : least ≤ length) (positive : 0 < length)
    (fits : value < 10 ^ length) (rest : List Char) :
    number least length ((Date.padded length value).toList ++ rest) = some (value, rest) := by
  have written := Date.length_padded positive fits
  have taken : ((Date.padded length value).toList ++ rest).take length =
      (Date.padded length value).toList := List.take_left' written
  have left : ((Date.padded length value).toList ++ rest).drop length = rest :=
    List.drop_left' written
  have digits := (takeWhile_digits (Date.isDigit_padded length value) endsNumber_nil).1
  rw [List.append_nil] at digits
  simp only [number, taken, digits, written, enough, if_true, digitsValue_padded, left]

/-- A number is read back when it does not go on. -/
theorem anyNumber_padded (length value : Nat) {rest : List Char}
    (ended : EndsNumber rest) :
    anyNumber ((Date.padded length value).toList ++ rest) = some (value, rest) := by
  obtain ⟨taken, left⟩ := takeWhile_digits (Date.isDigit_padded length value) ended
  have digits : takeWhile Char.isDigit ((Date.padded length value).toList ++ rest) =
      some ((Date.padded length value).toList, rest) := by
    rw [takeWhile, taken, left]
  have nonempty : (Date.padded length value).toList ≠ [] := by
    rw [Date.toList_padded]
    exact List.append_ne_nil_of_right_ne_nil _ Nat.toDigits_ne_nil
  rw [anyNumber, bind_eq digits, if_neg nonempty, digitsValue_padded]
  rfl

/-- No digit is a blank. -/
theorem isBlankChar_digit {char : Char} (isDigit : char.isDigit = true) :
    isBlankChar char = false := by
  have low : 48 ≤ char.toNat ∧ char.toNat ≤ 57 := by
    simp only [Char.isDigit, Bool.and_eq_true, decide_eq_true_eq] at isDigit
    exact isDigit
  rw [isBlankChar]
  generalize char.toNat = point at *
  simp only [Bool.or_eq_false_iff, Bool.and_eq_false_iff, decide_eq_false_iff_not,
    beq_eq_false_iff_ne]
  omega

/-- A written number begins with a digit. -/
theorem padded_eq_cons (length value : Nat) :
    ∃ digit digits, (Date.padded length value).toList = digit :: digits ∧
      digit.isDigit = true := by
  have isDigit := Date.isDigit_padded length value
  have nonempty : (Date.padded length value).toList ≠ [] := by
    rw [Date.toList_padded]
    exact List.append_ne_nil_of_right_ne_nil _ Nat.toDigits_ne_nil
  obtain ⟨digit, digits, written⟩ := List.exists_cons_of_ne_nil nonempty
  rw [written] at isDigit
  exact ⟨digit, digits, written, isDigit digit List.mem_cons_self⟩

/-- There are no blanks to skip before a character that is none. -/
theorem blanks_cons {char : Char} (visible : isBlankChar char = false) (rest : List Char) :
    blanks (char :: rest) = some ((), char :: rest) := by
  simp only [blanks, trimStart, List.dropWhile_cons, visible, Bool.false_eq_true, if_false]

theorem blanks_padded (length value : Nat) (rest : List Char) :
    blanks ((Date.padded length value).toList ++ rest) =
      some ((), (Date.padded length value).toList ++ rest) := by
  obtain ⟨digit, digits, written, isDigit⟩ := padded_eq_cons length value
  rw [written, List.cons_append]
  exact blanks_cons (isBlankChar_digit isDigit) _

theorem char_cons (expected : Char) (rest : List Char) :
    char expected (expected :: rest) = some ((), rest) := by
  simp only [char, satisfy, bind, StateT.bind, beq_self_eq_true, if_true, Option.bind_some]
  rfl

theorem shortNumber_padded {value : Nat} (fits : value < 100) (rest : List Char) :
    shortNumber ((Date.padded 2 value).toList ++ rest) = some (value, rest) := by
  rw [shortNumber, bind_eq (blanks_padded 2 value rest)]
  exact number_padded (by decide) (by decide) fits rest

theorem plainYear_digit {digit : Char} (isDigit : digit.isDigit = true) (rest : List Char) :
    plainYear (digit :: rest) = (do return (← number 1 4) : Scan Int) (digit :: rest) := by
  have noMinus : digit ≠ '-' := by
    rintro rfl
    exact absurd isDigit (by decide)
  have noPlus : digit ≠ '+' := by
    rintro rfl
    exact absurd isDigit (by decide)
  unfold plainYear
  split
  · rename_i same
    exact absurd (List.cons.inj same).1 noMinus
  · rename_i same
    exact absurd (List.cons.inj same).1 noPlus
  · rfl

/-- A year is read back, whatever its sign and its length. -/
theorem year_render (value : Int) {rest : List Char} (ended : EndsNumber rest) :
    year ((Date.renderYear value).toList ++ rest) = some (value, rest) := by
  rw [Date.renderYear]
  split
  · rename_i small
    obtain ⟨digit, digits, written, isDigit⟩ := padded_eq_cons 4 value.toNat
    have taken := @number_padded 1 4 value.toNat (by decide) (by decide) (by omega) rest
    rw [year, bind_eq (blanks_padded 4 value.toNat rest)]
    rw [written, List.cons_append] at taken ⊢
    rw [plainYear_digit isDigit, bind_eq taken, Int.toNat_of_nonneg small.1]
    rfl
  · have taken := anyNumber_padded 4 value.natAbs ended
    by_cases negative : value < 0
    · have visible : isBlankChar '-' = false := by decide
      have signed : (-(value.natAbs : Int)) = value := by omega
      have sign : "-".toList = ['-'] := rfl
      rw [if_pos negative, String.toList_append, sign, List.append_assoc, List.singleton_append,
        year, bind_eq (blanks_cons visible _), plainYear, bind_eq taken, signed]
      rfl
    · have visible : isBlankChar '+' = false := by decide
      have signed : (value.natAbs : Int) = value := by omega
      have sign : "+".toList = ['+'] := rfl
      rw [if_neg negative, String.toList_append, sign, List.append_assoc, List.singleton_append,
        year, bind_eq (blanks_cons visible _), plainYear, bind_eq taken, signed]
      rfl

/-- A fraction of so many digits is read back as a count of nanoseconds. -/
theorem fraction_padded {length value : Nat} (positive : 0 < length) (short : length ≤ 9)
    (fits : value < 10 ^ length) {rest : List Char} (ended : EndsNumber rest) :
    fraction ('.' :: ((Date.padded length value).toList ++ rest)) =
      some (value * 10 ^ (9 - length), rest) := by
  obtain ⟨taken, left⟩ := takeWhile_digits (Date.isDigit_padded length value) ended
  have digits : takeWhile Char.isDigit ((Date.padded length value).toList ++ rest) =
      some ((Date.padded length value).toList, rest) := by
    rw [takeWhile, taken, left]
  obtain ⟨digit, others, written, _⟩ := padded_eq_cons length value
  have nonempty : (Date.padded length value).toList ≠ [] := by
    rw [written]
    exact List.cons_ne_nil _ _
  have size := Date.length_padded positive fits
  have kept : (Date.padded length value).toList.take 9 = (Date.padded length value).toList :=
    List.take_of_length_le (by rw [size]; exact short)
  rw [fraction, bind_eq (get_eq _)]
  change (set _ >>= _ : Scan Nat) _ = _
  rw [bind_eq (set_eq _ _), bind_eq digits, if_neg nonempty, kept, digitsValue_padded, size]
  rfl

theorem fraction_render {nanosecond : Nat} (fits : nanosecond < 10 ^ 9) (rest : List Char) :
    fraction ((Timestamp.renderFraction nanosecond).toList ++ 'Z' :: rest) =
      some (nanosecond, 'Z' :: rest) := by
  have ended : EndsNumber ('Z' :: rest) := endsNumber_cons (by decide) rest
  have point (digits : String) :
      ("." ++ digits).toList ++ 'Z' :: rest = '.' :: (digits.toList ++ 'Z' :: rest) := by
    rw [String.toList_append, List.append_assoc]
    rfl
  rw [Timestamp.renderFraction]
  split
  · rename_i isZero
    rw [isZero]
    rfl
  · split
    · rename_i milliseconds
      rw [point, fraction_padded (by decide) (by decide) (by omega) ended]
      congr 2
      omega
    · split
      · rename_i microseconds
        rw [point, fraction_padded (by decide) (by decide) (by omega) ended]
        congr 2
        omega
      · rw [point, fraction_padded (by decide) (by decide) fits ended, Nat.sub_self, Nat.pow_zero,
          Nat.mul_one]

theorem toList_date (date : Date) (rest : List Char) :
    date.render.toList ++ rest =
      (Date.renderYear date.year).toList ++ ('-' :: ((Date.padded 2 date.month).toList ++
        ('-' :: ((Date.padded 2 date.day).toList ++ rest)))) := by
  have hyphen : "-".toList = ['-'] := rfl
  simp only [Date.render, String.toList_append, hyphen, List.append_assoc, List.cons_append,
    List.nil_append]

/-- A date that exists is read back. -/
theorem lenientDate_render {date : Date} (valid : date.isValid = true) (rest : List Char) :
    lenientDate (date.render.toList ++ rest) = some (date, rest) := by
  obtain ⟨_, ⟨_, month⟩, _, day⟩ := Date.isValid_iff.1 valid
  have monthFits : date.month < 100 := Nat.lt_of_le_of_lt month (by decide)
  have dayFits : date.day < 100 := Nat.lt_of_le_of_lt day (Date.monthLength_lt _ _)
  have hyphen : isBlankChar '-' = false := by decide
  rw [toList_date, lenientDate, bind_eq (year_render date.year (endsNumber_cons (by decide) _)),
    bind_eq (blanks_cons hyphen _), bind_eq (char_cons '-' _),
    bind_eq (shortNumber_padded monthFits _), bind_eq (blanks_cons hyphen _),
    bind_eq (char_cons '-' _), bind_eq (shortNumber_padded dayFits _)]
  rfl

end Scan

namespace Timestamp

/-- The minute of the day. -/
def minuteOfDay (moment : Timestamp) : Nat :=
  (moment.minute % 1440).toNat

theorem toList_render (moment : Timestamp) :
    moment.render.toList =
      moment.date.render.toList ++ ('T' :: ((Date.padded 2 (moment.minuteOfDay / 60)).toList ++
        (':' :: ((Date.padded 2 (moment.minuteOfDay % 60)).toList ++
          (':' :: ((Date.padded 2 moment.second).toList ++
            ((renderFraction moment.nanosecond).toList ++ ['Z']))))))) := by
  have letters : "T".toList = ['T'] ∧ ":".toList = [':'] ∧ "Z".toList = ['Z'] := ⟨rfl, rfl, rfl⟩
  simp only [render, minuteOfDay, String.toList_append, letters.1, letters.2.1, letters.2.2,
    List.append_assoc, List.cons_append, List.nil_append]

/-- A moment is put together again from its date and its time of day. -/
theorem ofParts?_render (moment : Timestamp) :
    ofParts? moment.date (moment.minuteOfDay / 60) (moment.minuteOfDay % 60) moment.second
      moment.nanosecond 0 = some moment := by
  have days := Date.toDays_ofDays (moment.minute / 1440)
  have minutes : 1440 * moment.date.toDays + 60 * (moment.minuteOfDay / 60 : Nat) +
      (moment.minuteOfDay % 60 : Nat) - 0 = moment.minute := by
    rw [date, days, minuteOfDay]
    omega
  have form : moment.second ≤ 60 ∧ moment.nanosecond < 10 ^ 9 ∧
      (Date.ofDays (moment.minute / 1440)).isValid = true :=
    ⟨moment.second_le, moment.nanosecond_lt, moment.inRange⟩
  have time : moment.date.isValid = true ∧ moment.minuteOfDay / 60 < 24 ∧
      moment.minuteOfDay % 60 < 60 := by
    refine ⟨moment.inRange, ?_, Nat.mod_lt _ (by decide)⟩
    rw [minuteOfDay]
    omega
  simp only [ofParts?, minutes, dif_pos form, if_pos time]

theorem date_isValid (moment : Timestamp) : moment.date.isValid = true :=
  moment.inRange

theorem minuteOfDay_lt (moment : Timestamp) : moment.minuteOfDay < 1440 := by
  rw [minuteOfDay]
  omega

open Scan in
/-- Every moment is read back from its text. -/
theorem parse?_render (moment : Timestamp) : parse? moment.render = some moment := by
  have inDay := moment.minuteOfDay_lt
  have hour : moment.minuteOfDay / 60 < 100 := by omega
  have minute : moment.minuteOfDay % 60 < 100 := by omega
  have second : moment.second < 100 := Nat.lt_of_le_of_lt moment.second_le (by decide)
  have colon : isBlankChar ':' = false := by decide
  have zulu : isBlankChar 'Z' = false := by decide
  have dateEnded (rest : List Char) : dateEnd ('T' :: rest) = some ((), rest) := rfl
  have offset : lenientOffset ['Z'] = some (0, []) := by rfl
  have ended : blanks [] = some ((), []) := rfl
  have taken : lenientMoment moment.render.toList = some (moment, []) := by
    rw [toList_render, lenientMoment, bind_eq (lenientDate_render moment.date_isValid _),
      bind_eq (dateEnded _), bind_eq (shortNumber_padded hour _), bind_eq (blanks_cons colon _),
      bind_eq (char_cons ':' _), bind_eq (shortNumber_padded minute _),
      bind_eq (blanks_cons colon _), bind_eq (char_cons ':' _),
      bind_eq (shortNumber_padded second _),
      bind_eq (fraction_render moment.nanosecond_lt []), bind_eq (blanks_cons zulu _),
      bind_eq offset, bind_eq ended]
    rw [ofParts?_render]
    rfl
  simp only [parse?, whole?, StateT.run, taken]

/-- A year is written with a digit or a sign in front. -/
theorem renderYear_eq_cons (year : Int) : ∃ char rest,
    (Date.renderYear year).toList = char :: rest ∧ isBlankChar char = false := by
  rw [Date.renderYear]
  split
  · obtain ⟨digit, digits, written, isDigit⟩ := Scan.padded_eq_cons 4 year.toNat
    exact ⟨digit, digits, written, Scan.isBlankChar_digit isDigit⟩
  · rw [String.toList_append]
    split
    · exact ⟨'-', _, rfl, by decide⟩
    · exact ⟨'+', _, rfl, by decide⟩

/-- The text of a moment neither begins nor ends with a blank. -/
theorem trim_render (moment : Timestamp) : trim moment.render = moment.render := by
  obtain ⟨char, year, written, visible⟩ := renderYear_eq_cons moment.date.year
  have begins : ∃ rest, moment.render.toList = char :: rest := by
    rw [toList_render, Scan.toList_date, written]
    exact ⟨_, rfl⟩
  have ends : ∃ front, moment.render.toList = front ++ ['Z'] := by
    rw [toList_render]
    simp only [← List.cons_append, ← List.append_assoc]
    exact ⟨_, rfl⟩
  obtain ⟨rest, begins⟩ := begins
  obtain ⟨front, ends⟩ := ends
  have zulu : isBlankChar 'Z' = false := by decide
  have start : trimStart moment.render.toList = moment.render.toList := by
    rw [begins, trimStart, List.dropWhile_cons_of_neg (by simp [visible])]
  have finish : trimEnd moment.render.toList = moment.render.toList := by
    rw [ends, trimEnd, List.reverse_append, List.reverse_singleton, List.singleton_append,
      trimStart, List.dropWhile_cons_of_neg (by simp [zulu]), List.reverse_cons,
      List.reverse_reverse]
  rw [trim, trimChars, start, finish, String.ofList_toList]

open Scan in
/-- A moment of the years 0 to 9999 is read back from its text as an upload time. -/
theorem parseUpload?_render (moment : Timestamp) (first : 0 ≤ moment.date.year)
    (last : moment.date.year ≤ 9999) : parseUpload? moment.render = some moment := by
  obtain ⟨_, ⟨_, monthLast⟩, _, dayLast⟩ := Date.isValid_iff.1 moment.date_isValid
  have inDay := moment.minuteOfDay_lt
  have year : moment.date.year.toNat < 10 ^ 4 := by omega
  have month : moment.date.month < 10 ^ 2 := Nat.lt_of_le_of_lt monthLast (by decide)
  have day : moment.date.day < 10 ^ 2 := Nat.lt_of_le_of_lt dayLast (Date.monthLength_lt _ _)
  have hour : moment.minuteOfDay / 60 < 10 ^ 2 := by omega
  have minute : moment.minuteOfDay % 60 < 10 ^ 2 := by omega
  have second : moment.second < 10 ^ 2 := Nat.lt_of_le_of_lt moment.second_le (by decide)
  have twoDigits_padded {value : Nat} (fits : value < 10 ^ 2) (rest : List Char) :
      twoDigits ((Date.padded 2 value).toList ++ rest) = some (value, rest) :=
    number_padded (by decide) (by decide) fits rest
  have dateEnded (rest : List Char) : dateEnd ('T' :: rest) = some ((), rest) := rfl
  have offset : offset (char ':') ['Z'] = some (0, []) := by rfl
  have sameDate :
      Date.mk moment.date.year.toNat moment.date.month moment.date.day = moment.date := by
    rw [Int.toNat_of_nonneg first]
  have taken : strictMoment moment.render.toList = some (moment, []) := by
    rw [toList_render, toList_date, Date.renderYear, if_pos ⟨first, last⟩, strictMoment,
      bind_eq (number_padded (by decide) (by decide) year _), bind_eq (char_cons '-' _),
      bind_eq (twoDigits_padded month _), bind_eq (char_cons '-' _),
      bind_eq (twoDigits_padded day _), bind_eq (dateEnded _),
      bind_eq (twoDigits_padded hour _), bind_eq (char_cons ':' _),
      bind_eq (twoDigits_padded minute _), bind_eq (char_cons ':' _),
      bind_eq (twoDigits_padded second _), bind_eq (fraction_render moment.nanosecond_lt []),
      bind_eq offset, sameDate]
    rw [ofParts?_render]
    rfl
  simp only [parseUpload?, trim_render, parseStrict?, whole?, StateT.run, taken]

/-- A year with a sign is no year of the strict form. -/
theorem strictMoment_signed {sign : Char} (noDigit : sign.isDigit = false) (rest : List Char) :
    Scan.strictMoment (sign :: rest) = none := by
  have noYear : Scan.number 4 4 (sign :: rest) = none := by
    simp [Scan.number, noDigit]
  rw [Scan.strictMoment, Scan.bind_eq_none noYear]

open Scan in
/-- The bare date of a moment ends before the time of day. -/
theorem bareDate_render (moment : Timestamp) :
    ∃ rest, bareDate moment.render.toList = some (moment.date, 'T' :: rest) := by
  obtain ⟨_, ⟨_, monthLast⟩, _, dayLast⟩ := Date.isValid_iff.1 moment.date_isValid
  have month : moment.date.month < 100 := Nat.lt_of_le_of_lt monthLast (by decide)
  have day : moment.date.day < 100 := Nat.lt_of_le_of_lt dayLast (Date.monthLength_lt _ _)
  rw [toList_render, toList_date, bareDate,
    bind_eq (year_render moment.date.year (endsNumber_cons (by decide) _)),
    bind_eq (char_cons '-' _), bind_eq (shortNumber_padded month _), bind_eq (char_cons '-' _),
    bind_eq (shortNumber_padded day _)]
  exact ⟨_, rfl⟩

/-- A moment outside of the years 0 to 9999 is not read back from its text as an upload time: the
strict form has no sign, and the bare date leaves the time of day over. -/
theorem parseUpload?_render_signed {moment : Timestamp}
    (signed : ¬(0 ≤ moment.date.year ∧ moment.date.year ≤ 9999)) :
    parseUpload? moment.render = none := by
  have begins : ∃ sign rest, moment.render.toList = sign :: rest ∧ sign.isDigit = false := by
    rw [toList_render, Scan.toList_date, Date.renderYear, if_neg signed, String.toList_append]
    split
    · exact ⟨'-', _, rfl, by decide⟩
    · exact ⟨'+', _, rfl, by decide⟩
  obtain ⟨sign, rest, begins, noDigit⟩ := begins
  obtain ⟨left, taken⟩ := bareDate_render moment
  have noMoment : parseStrict? moment.render = none := by
    rw [parseStrict?, Scan.whole?, StateT.run, begins, strictMoment_signed noDigit]
  have noDate : parseDate? moment.render = none := by
    rw [parseDate?, Scan.whole?, StateT.run, taken]
    rfl
  rw [parseUpload?, trim_render]
  simp only [noMoment, noDate]

end Timestamp

end Questionnaire
