/-
# Timestamps are read back

Each part of a written timestamp is read back from the text that begins with it, and what follows
it is left: the year before its hyphen, with or without a sign, the two digits of the other parts,
and a fraction of any of its lengths. Put together they are the timestamp again, in a leap second
too. Main statement: `read?_zulu`.
-/
import Mathlib.Tactic.SplitIfs
import Paging.Proofs.Text.Digits
import Paging.Proofs.Time.Calendar
import Paging.Time.Rfc3339

namespace Paging
namespace Rfc3339

variable {rest : List Char}

/-- A text that does not go on with a digit. -/
def NoDigit (rest : List Char) : Prop := ∀ c ∈ rest.head?, c.isDigit = false

/-- Digits are read up to what is no digit, or up to as many as may be. -/
theorem digits?_append {most : Nat} {ds : List Char} (hne : ds ≠ []) (hds : ∀ c ∈ ds, c.isDigit)
    (hlength : ds.length = most ∨ ds.length ≤ most ∧ NoDigit rest) :
    digits? most (ds ++ rest) = some (Text.value ds, rest) := by
  have hmore : (rest.take (most - ds.length)).takeWhile Char.isDigit = [] := by
    rcases hlength with rfl | ⟨-, hrest⟩
    · rw [Nat.sub_self, List.take_zero]
      rfl
    · refine Text.takeWhile_of_head? fun c hc => hrest c ?_
      rw [List.head?_take] at hc
      split_ifs at hc
      · cases hc
      · exact hc
  have hrun : ((ds ++ rest).take most).takeWhile Char.isDigit = ds := by
    rw [List.take_append, List.take_of_length_le (by omega), List.takeWhile_append_of_pos hds,
      hmore, List.append_nil]
  have hempty : ds.isEmpty = false := by simpa using hne
  simp only [digits?, hrun, hempty, List.drop_left, Bool.false_eq_true, if_false]

/-- A digit is no blank. -/
theorem isBlank_of_isDigit {c : Char} (h : c.isDigit) : isBlank c = false := by
  obtain ⟨hlow, hhigh⟩ := Text.toNat_of_isDigit h
  simp [isBlank]
  omega

/-- There is nothing to skip before a character that is no blank. -/
theorem skipBlanks_cons {c : Char} (h : isBlank c = false) :
    skipBlanks (c :: rest) = c :: rest := by
  simp [skipBlanks, h]

/-- An expected character is read where it stands. -/
theorem expect?_cons {c : Char} (h : isBlank c = false) : expect? c (c :: rest) = some rest := by
  simp only [expect?, skipBlanks_cons h, if_true]

/-- Digits that stand for themselves have no blanks in front. -/
theorem exists_padded (width n : Nat) :
    ∃ c ds, Text.padded width n = c :: ds ∧ c.isDigit := by
  obtain ⟨c, ds, hcons⟩ := List.exists_cons_of_ne_nil (Text.padded_ne_nil width n)
  exact ⟨c, ds, hcons, Text.isDigit_of_mem_padded (hcons ▸ List.mem_cons_self)⟩

/-- There is nothing to skip before digits. -/
theorem skipBlanks_padded (width n : Nat) :
    skipBlanks (Text.padded width n ++ rest) = Text.padded width n ++ rest := by
  obtain ⟨c, ds, hcons, hc⟩ := exists_padded width n
  rw [hcons, List.cons_append, skipBlanks_cons (isBlank_of_isDigit hc)]

/-- A field of digits that is filled is read back. -/
theorem digits?_padded {width n : Nat} (rest : List Char) (hwidth : 0 < width)
    (h : n < 10 ^ width) :
    digits? width (Text.padded width n ++ rest) = some (n, rest) := by
  rw [digits?_append (Text.padded_ne_nil width n) (fun _ => Text.isDigit_of_mem_padded)
    (.inl (Text.length_padded hwidth h)), Text.value_padded]

/-- A field of digits before something else is read back. -/
theorem digits?_padded_of_noDigit (width n : Nat) {most : Nat} (hrest : NoDigit rest)
    (h : (Text.padded width n).length ≤ most) :
    digits? most (Text.padded width n ++ rest) = some (n, rest) := by
  rw [digits?_append (Text.padded_ne_nil width n) (fun _ => Text.isDigit_of_mem_padded)
    (.inr ⟨h, hrest⟩), Text.value_padded]

/-- Two digits are read back as the number below a hundred that they were written for. -/
theorem pair?_padded {n : Nat} (h : n < 100) :
    pair? (Text.padded 2 n ++ rest) = some (n, rest) := by
  rw [pair?, skipBlanks_padded]
  exact digits?_padded rest (by decide) h

/-- **A year is read back**, from its text before a hyphen. A sign stands before a year that is
negative or has more than four digits, and is read first; without it a digit comes first, which is
neither of the signs. -/
theorem year?_yearText (year : Int) (hrest : NoDigit rest) :
    year? (yearText year ++ rest) = some (year, rest) := by
  have hsigned : digits? (Text.padded 4 year.natAbs ++ rest).length
      (Text.padded 4 year.natAbs ++ rest) = some (year.natAbs, rest) :=
    digits?_padded_of_noDigit 4 year.natAbs hrest (by simp)
  unfold yearText
  split_ifs with hneg hbig
  · have habs : -(year.natAbs : Int) = year := by omega
    rw [List.cons_append, year?, skipBlanks_cons (by decide)]
    simp only [hsigned, Option.map_some, habs]
  · have habs : (year.natAbs : Int) = year := by omega
    rw [List.cons_append, year?, skipBlanks_cons (by decide)]
    simp only [hsigned, Option.map_some, habs]
  · have habs : (year.natAbs : Int) = year := by omega
    have hread : digits? 4 (Text.padded 4 year.natAbs ++ rest) = some (year.natAbs, rest) :=
      digits?_padded rest (by decide) (by omega)
    obtain ⟨c, ds, hcons, hc⟩ := exists_padded 4 year.natAbs
    rw [year?, skipBlanks_padded]
    rw [hcons, List.cons_append] at hread ⊢
    split
    · next h =>
      rw [(List.cons.inj h).1] at hc
      exact absurd hc (by decide)
    · next h =>
      rw [(List.cons.inj h).1] at hc
      exact absurd hc (by decide)
    · simp only [hread, Option.map_some, habs]

/-- A time without a point has no fraction of a second. -/
theorem fraction?_none (hpoint : rest.head? ≠ some '.') : fraction? rest = some (0, rest) := by
  cases rest with
  | nil => rfl
  | cons c rest =>
    unfold fraction?
    split
    · next h => exact absurd (congrArg List.head? h) hpoint
    · rfl

/-- A point and digits are read as so many parts of a billion. -/
theorem fraction?_padded {width n : Nat} (hwidth : 0 < width ∧ width ≤ 9) (h : n < 10 ^ width)
    (hrest : NoDigit rest) :
    fraction? ('.' :: Text.padded width n ++ rest) = some (n * 10 ^ (9 - width), rest) := by
  have hlength := Text.length_padded hwidth.1 h
  rw [List.cons_append, fraction?]
  rw [digits?_padded_of_noDigit _ _ hrest (hlength.trans_le hwidth.2)]
  show some (n * Nat.pow 10 (9 - ((Text.padded width n ++ rest).length - rest.length)),
    rest.dropWhile Char.isDigit) = _
  rw [Text.dropWhile_of_head? hrest, List.length_append, hlength, Nat.add_sub_cancel]
  rfl

/-- **A fraction of a second is read back.** -/
theorem fraction?_fractionText {nanos : Nat} (h : nanos < 1000000000) (hrest : NoDigit rest)
    (hpoint : rest.head? ≠ some '.') :
    fraction? (fractionText nanos ++ rest) = some (nanos, rest) := by
  unfold fractionText
  split_ifs with hzero hmilli hmicro
  · rw [hzero]
    exact fraction?_none hpoint
  · rw [fraction?_padded (by decide) (by omega) hrest]
    congr 2
    omega
  · rw [fraction?_padded (by decide) (by omega) hrest]
    congr 2
    omega
  · rw [fraction?_padded (by decide) (by omega) hrest]
    congr 2
    omega

/-- A separator and two digits behind it are read back. -/
theorem expect?_pair {c : Char} {n : Nat} (hc : isBlank c = false) (h : n < 100) :
    (expect? c (c :: (Text.padded 2 n ++ rest))).bind pair? = some (n, rest) := by
  rw [expect?_cons hc, Option.bind_some, pair?_padded h]

/-- The date and the time of day of a timestamp make it up. In a leap second, second 60 stands for
the last second of the minute and a billion of nanoseconds. -/
theorem assemble?_parts (t : Timestamp) {second : Nat}
    (hsecond : (t.seconds % 86400).toNat = second) :
    assemble? (Date.ofDays (t.seconds / 86400)) (second / 3600) (second / 60 % 60)
      (second % 60 + t.nanos / 1000000000) (t.nanos % 1000000000) 0 = some t := by
  obtain ⟨⟨hlow, hhigh⟩, hnanos, hleap⟩ := t.inRange
  have hyear := Date.year_ofDays (t.seconds / 86400) (by omega)
  have hcount : (second % 60 + t.nanos / 1000000000) / 60 = t.nanos / 1000000000 := by omega
  have hseconds : t.seconds / 86400 * 86400 + (((second / 3600 : Nat) : Int) * 3600 +
      (second / 60 % 60 : Nat) * 60 + (second % 60 + t.nanos / 1000000000 : Nat) -
        (t.nanos / 1000000000 : Nat)) - 0 = t.seconds := by omega
  have hnanos' : t.nanos % 1000000000 + t.nanos / 1000000000 * 1000000000 = t.nanos := by omega
  unfold assemble?
  rw [if_pos ⟨Date.isValid_ofDays _, hyear.1, hyear.2, by omega, by omega, by omega, by decide,
    by decide⟩]
  simp only [hcount, hseconds, hnanos', Date.toDays_ofDays, Timestamp.ofUnix?_self]

/-- **A timestamp is read back as it was.** Every part is in the range of its digits, and the parts
are read one after another, each before the mark that follows it. -/
theorem read?_zulu (t : Timestamp) : read? (zulu t) = some t := by
  have hnanos := t.inRange.2.1
  obtain ⟨hmonth, hday⟩ := Date.le_of_isValid (Date.isValid_ofDays (t.seconds / 86400))
  obtain ⟨second, hsecond⟩ : ∃ s, (t.seconds % 86400).toNat = s := ⟨_, rfl⟩
  have hparts := assemble?_parts t hsecond
  have hnoDigit {c : Char} (hc : c.isDigit = false) (rest : List Char) : NoDigit (c :: rest) := by
    rintro _ ⟨⟩
    exact hc
  have hdash : isBlank '-' = false := by decide
  have hcolon : isBlank ':' = false := by decide
  have hmonth' : (Date.ofDays (t.seconds / 86400)).month < 100 := by omega
  have hday' : (Date.ofDays (t.seconds / 86400)).day < 100 := by omega
  have hhour : second / 3600 < 100 := by omega
  have hminute : second / 60 % 60 < 100 := by omega
  have hlast : second % 60 + t.nanos / 1000000000 < 100 := by omega
  unfold zulu localText read?
  simp only [hsecond, List.append_assoc, List.cons_append]
  rw [year?_yearText _ (hnoDigit (by decide) _)]
  simp only [Option.bind_eq_bind, Option.bind_some, expect?_pair hdash hmonth',
    expect?_pair hdash hday', true_or, if_true, pair?_padded hhour, expect?_pair hcolon hminute,
    expect?_pair hcolon hlast]
  rw [fraction?_fractionText (by omega) (hnoDigit (by decide) _) (by decide)]
  simp only [Option.bind_some]
  rw [skipBlanks_cons (by decide)]
  exact hparts

end Rfc3339
end Paging
