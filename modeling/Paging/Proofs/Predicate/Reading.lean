/-
# A condition is read in one way only

`AND` is written without brackets, so conjunctions that differ in how they are nested have one
rendering, and so have values with one literal, such as texts that differ in null characters.
Nothing else has: predicates of one rendering are alike (`Predicate.Alike`), and what the text says
about which fields is the same in both (`Predicate.outline`), whatever stands between quotes
(`Predicate.sql_unambiguous`). The lexemes of the two are the same, and a row of lexemes is read
from the left: where another condition begins with the same lexemes, it is read up already or goes
on after an `AND` (`Sql.Reads`).

What is no conjunction is a part between `AND`s (`IsPart`), and it is told from all that may follow
it (`ReadsPart`): there is one lemma for each way to write a part. A conjunction is read from its
parts (`Reads.both`), and both together are the induction over conditions (`Lexed.reads`).
-/
import Paging.Proofs.Predicate.Lexemes

namespace Paging

/-- Operands with one rendering. -/
inductive Expr.Alike : Expr → Expr → Prop
  | field (name : String) : Alike (.field name) (.field name)
  | literal {v w : Value} {text : List Char} (hv : Sql.literal v = .ok text)
      (hw : Sql.literal w = .ok text) : Alike (.literal v) (.literal w)

/-- Operands that are written alike are so in either order. -/
theorem Expr.Alike.symm {e e' : Expr} (h : e.Alike e') : e'.Alike e := by
  cases h with
  | field name => exact .field name
  | literal hv hw => exact .literal hw hv

/-- Predicates that differ in how conjunctions are nested, and in values that have one literal. -/
inductive Predicate.Alike : Predicate → Predicate → Prop
  | refl (p : Predicate) : Alike p p
  | symm {p q : Predicate} (h : Alike p q) : Alike q p
  | trans {p q r : Predicate} (h : Alike p q) (h' : Alike q r) : Alike p r
  | assoc (p q r : Predicate) : Alike (.both (.both p q) r) (.both p (.both q r))
  | compare {left left' right right' : Expr} (comparison : Comparison) (hl : left.Alike left')
      (hr : right.Alike right') :
      Alike (.compare left comparison right) (.compare left' comparison right')
  | isNull {e e' : Expr} (h : e.Alike e') : Alike (.isNull e) (.isNull e')
  | both {p p' q q' : Predicate} (hp : Alike p p') (hq : Alike q q') :
      Alike (.both p q) (.both p' q')
  | either {p p' q q' : Predicate} (hp : Alike p p') (hq : Alike q q') :
      Alike (.either p q) (.either p' q')
  | negation {p p' : Predicate} (h : Alike p p') : Alike (.negation p) (.negation p')

namespace Sql

variable {p q : Predicate} {a b rest rest' : List Lexeme}

/-- Two expressions that show as one operand are alike: the same column, or literals of the same
text. -/
theorem Shows.alike {e e' : Expr} {o : Operand} (h : Shows e o) (h' : Shows e' o) :
    e.Alike e' := by
  cases h with
  | field name =>
    cases h'
    exact .field name
  | literal h =>
    cases h' with
    | literal h' => exact .literal h h'

/-- An expression that is like another one shows as the same operand. -/
theorem Shows.of_alike {e e' : Expr} {o : Operand} (h : Shows e o) (he : e.Alike e') :
    Shows e' o := by
  cases he with
  | field name => exact h
  | literal hv hw =>
    cases h with
    | literal h =>
      obtain rfl := Except.ok.inj (hv.symm.trans h)
      exact .literal hw

/-- Alike expressions show as the same operands. -/
theorem shows_iff_of_alike {e e' : Expr} {o : Operand} (he : e.Alike e') :
    Shows e o ↔ Shows e' o :=
  ⟨fun h => h.of_alike he, fun h => h.of_alike he.symm⟩

/-- The lexemes of a comparison: two operands with the operator between them. -/
theorem lexed_compare_iff {left right : Expr} {comparison : Comparison} :
    Lexed (.compare left comparison right) a ↔ ∃ l r, Shows left l ∧ Shows right r ∧
      a = [.operand l, .mark (.operator comparison), .operand r] := by
  constructor
  · intro h
    cases h with
    | compare _ hl hr => exact ⟨_, _, hl, hr, rfl⟩
  · rintro ⟨l, r, hl, hr, rfl⟩
    exact .compare _ hl hr

/-- The lexemes of a null test: an operand and the mark behind it. -/
theorem lexed_isNull_iff {e : Expr} :
    Lexed (.isNull e) a ↔ ∃ o, Shows e o ∧ a = [.operand o, .mark .isNull] := by
  constructor
  · intro h
    cases h with
    | isNull h => exact ⟨_, h, rfl⟩
  · rintro ⟨o, h, rfl⟩
    exact .isNull h

/-- The lexemes of a conjunction: those of its sides with `AND` between them, and no parentheses. -/
theorem lexed_both_iff : Lexed (.both p q) a ↔
    ∃ b c, Lexed p b ∧ Lexed q c ∧ a = b ++ .mark .and :: c := by
  constructor
  · intro h
    cases h with
    | both hp hq => exact ⟨_, _, hp, hq, rfl⟩
  · rintro ⟨b, c, hp, hq, rfl⟩
    exact .both hp hq

/-- The lexemes of a disjunction: those of its sides with `OR` between them, in parentheses. -/
theorem lexed_either_iff : Lexed (.either p q) a ↔ ∃ b c, Lexed p b ∧ Lexed q c ∧
    a = .mark .opening :: (b ++ .mark .or :: (c ++ [.mark .closing])) := by
  constructor
  · intro h
    cases h with
    | either hp hq => exact ⟨_, _, hp, hq, rfl⟩
  · rintro ⟨b, c, hp, hq, rfl⟩
    exact .either hp hq

/-- Only a null test has the lexemes of one. -/
theorem Lexed.eq_isNull {o : Operand} (h : Lexed p [.operand o, .mark .isNull]) :
    ∃ e, p = .isNull e ∧ Shows e o := by
  generalize hls : [Lexeme.operand o, .mark .isNull] = ls at h
  cases h with
  | isNull h =>
    cases hls
    exact ⟨_, rfl, h⟩
  | both hp hq =>
    have hmem : Lexeme.mark .and ∈ [Lexeme.operand o, .mark .isNull] := hls ▸ by simp
    simp at hmem
  | _ => cases hls

/-- A negation is written by the lexemes of what it negates. -/
theorem lexed_negation_iff : Lexed (.negation p) a ↔
    (∃ o, Lexed p [.operand o, .mark .isNull] ∧ a = [.operand o, .mark .isNotNull]) ∨
      (∀ o, ¬Lexed p [.operand o, .mark .isNull]) ∧
        ∃ b, Lexed p b ∧ a = .mark .negation :: (b ++ [.mark .closing]) := by
  constructor
  · intro h
    cases h with
    | isNotNull h => exact .inl ⟨_, .isNull h, rfl⟩
    | negation hp hnull =>
      refine .inr ⟨fun o ho => ?_, _, hp, rfl⟩
      obtain ⟨e, he, -⟩ := ho.eq_isNull
      exact hnull e he
  · rintro (⟨o, hp, rfl⟩ | ⟨hnull, b, hp, rfl⟩)
    · obtain ⟨e, rfl, h⟩ := hp.eq_isNull
      exact .isNotNull h
    · refine .negation hp ?_
      rintro e rfl
      obtain ⟨o, h, -⟩ := lexed_isNull_iff.1 hp
      exact hnull o (.isNull h)

/-- How a chain of conjunctions is nested cannot be told from its lexemes, which is why predicates
are read back up to that. -/
theorem lexed_both_assoc {r : Predicate} :
    Lexed (.both (.both p q) r) a ↔ Lexed (.both p (.both q r)) a := by
  constructor
  · intro h
    obtain ⟨_, c, hpq, hr, rfl⟩ := lexed_both_iff.1 h
    obtain ⟨b, b', hp, hq, rfl⟩ := lexed_both_iff.1 hpq
    rw [List.append_assoc]
    exact .both hp (.both hq hr)
  · intro h
    obtain ⟨b, _, hp, hqr, rfl⟩ := lexed_both_iff.1 h
    obtain ⟨b', c, hq, hr, rfl⟩ := lexed_both_iff.1 hqr
    rw [List.append_cons, ← List.append_assoc, ← List.append_cons]
    exact .both (.both hp hq) hr

/-- Predicates that are alike have the same lexemes. -/
theorem lexed_iff_of_alike (h : p.Alike q) : Lexed p a ↔ Lexed q a := by
  induction h generalizing a with
  | refl p => rfl
  | symm _ ih => exact ih.symm
  | trans _ _ ih ih' => exact ih.trans ih'
  | assoc p q r => exact lexed_both_assoc
  | compare comparison hl hr =>
    simp only [lexed_compare_iff, shows_iff_of_alike hl, shows_iff_of_alike hr]
  | isNull h => simp only [lexed_isNull_iff, shows_iff_of_alike h]
  | both _ _ ihp ihq => simp only [lexed_both_iff, ihp, ihq]
  | either _ _ ihp ihq => simp only [lexed_either_iff, ihp, ihq]
  | negation _ ih => simp only [lexed_negation_iff, ih]

/-- Not a conjunction, so read as one part between `AND`s. -/
def IsPart (p : Predicate) : Prop :=
  ∀ l r, p ≠ .both l r

/-- A part is told from what follows it. -/
def ReadsPart (p : Predicate) (a : List Lexeme) : Prop :=
  ∀ (q : Predicate) (b rest rest' : List Lexeme), IsPart q → Lexed q b →
    a ++ rest = b ++ rest' → p.Alike q ∧ rest = rest'

/-- A conjunction of parts is read from the left: another one that has the same lexemes before
something else than `AND` is either read up already, or goes on with a conjunction. -/
def Reads (p : Predicate) (a : List Lexeme) : Prop :=
  ∀ (q : Predicate) (b rest rest' : List Lexeme), Lexed q b → a ++ rest = b ++ rest' →
    rest'.head? ≠ some (.mark .and) →
      (p.Alike q ∧ rest = rest') ∨
        ∃ more c, Lexed more c ∧ rest = .mark .and :: (c ++ rest') ∧ (p.both more).Alike q

/-- Every condition is a part, or a part and a condition. -/
theorem Lexed.first (h : Lexed q b) : IsPart q ∨ ∃ part more c d, IsPart part ∧ Lexed part c ∧
    Lexed more d ∧ b = c ++ .mark .and :: d ∧ (part.both more).Alike q := by
  induction h with
  | both hp hq ihp _ =>
    right
    rcases ihp with hpart | ⟨part, more, c, d, hpart, hc, hd, rfl, halike⟩
    · exact ⟨_, _, _, _, hpart, hp, hq, rfl, .refl _⟩
    · refine ⟨part, _, c, _, hpart, hc, .both hd hq, ?_, ?_⟩
      · rw [List.append_assoc, List.cons_append]
      · exact .trans (.symm (.assoc _ _ _)) (.both halike (.refl _))
  | _ => exact .inl fun l r => by rintro ⟨⟩

/-- What is told from all that follows it as a part is also read as a conjunction of one part. -/
theorem ReadsPart.reads (h : ReadsPart p a) : Reads p a := by
  intro q b rest rest' hq hab _
  rcases hq.first with hpart | ⟨part, more, c, d, hpart, hc, hd, rfl, halike⟩
  · exact .inl (h _ _ _ _ hpart hq hab)
  · rw [List.append_assoc, List.cons_append] at hab
    obtain ⟨hsame, hmore⟩ := h _ _ _ _ hpart hc hab
    exact .inr ⟨more, d, hd, hmore, .trans (.both hsame (.refl _)) halike⟩

/-- **A conjunction is read from the left.** Once its left side is read, another condition with the
same lexemes goes on behind the `AND`, and its right side is read there. -/
theorem Reads.both (hp : Reads p a) (hq : Reads q b) :
    Reads (.both p q) (a ++ .mark .and :: b) := by
  intro r c rest rest' hr hab hrest
  rw [List.append_assoc, List.cons_append] at hab
  rcases hp _ _ _ _ hr hab hrest with ⟨-, hsame⟩ | ⟨more, d, hmore, hd, halike⟩
  · exact absurd (hsame ▸ rfl) hrest
  · rcases hq _ _ _ _ hmore (List.cons.inj hd).2 hrest with
      ⟨hqm, hsame⟩ | ⟨more', d', hmore', hd', hqm⟩
    · exact .inl ⟨.trans (.both (.refl _) hqm) halike, hsame⟩
    · refine .inr ⟨more', d', hmore', hd', ?_⟩
      exact .trans (.assoc _ _ _) (.trans (.both (.refl _) hqm) halike)

/-- What is read before a mark that is not `AND` is read whole. -/
theorem Reads.before {m m' : Mark} (h : Reads p a) (hq : Lexed q b) (hm : m ≠ .and)
    (hm' : m' ≠ .and) (hab : a ++ .mark m :: rest = b ++ .mark m' :: rest') :
    p.Alike q ∧ m = m' ∧ rest = rest' := by
  rcases h _ _ _ _ hq hab (by simpa using hm') with ⟨halike, hsame⟩ | ⟨_, _, _, hsame, _⟩
  · cases hsame
    exact ⟨halike, rfl, rfl⟩
  · cases hsame
    exact absurd rfl hm

/-- A comparison is told by its lexemes, for the other kinds of parts have others there. -/
theorem readsPart_compare {left right : Expr} {l r : Operand} (comparison : Comparison)
    (hl : Shows left l) (hr : Shows right r) : ReadsPart (.compare left comparison right)
      [.operand l, .mark (.operator comparison), .operand r] := by
  intro q b rest rest' hpart hq hab
  cases hq with
  | both => exact absurd rfl (hpart _ _)
  | compare _ hl' hr' =>
    cases hab
    exact ⟨.compare _ (hl.alike hl') (hr.alike hr'), rfl⟩
  | _ => cases hab

/-- A null test is told from what follows it by the mark behind its operand. -/
theorem readsPart_isNull {e : Expr} {o : Operand} (h : Shows e o) :
    ReadsPart (.isNull e) [.operand o, .mark .isNull] := by
  intro q b rest rest' hpart hq hab
  cases hq with
  | both => exact absurd rfl (hpart _ _)
  | isNull h' =>
    cases hab
    exact ⟨.isNull (h.alike h'), rfl⟩
  | _ => cases hab

/-- So is its negated form, which has a mark of its own. -/
theorem readsPart_isNotNull {e : Expr} {o : Operand} (h : Shows e o) :
    ReadsPart (.negation (.isNull e)) [.operand o, .mark .isNotNull] := by
  intro q b rest rest' hpart hq hab
  cases hq with
  | both => exact absurd rfl (hpart _ _)
  | isNotNull h' =>
    cases hab
    exact ⟨.negation (.isNull (h.alike h')), rfl⟩
  | _ => cases hab

/-- The condition that always holds is one mark, with which no other part begins. -/
theorem readsPart_always : ReadsPart .always [.mark .always] := by
  intro q b rest rest' hpart hq hab
  cases hq with
  | both => exact absurd rfl (hpart _ _)
  | always =>
    cases hab
    exact ⟨.refl _, rfl⟩
  | _ => cases hab

/-- So is the one that never holds. -/
theorem readsPart_never : ReadsPart .never [.mark .never] := by
  intro q b rest rest' hpart hq hab
  cases hq with
  | both => exact absurd rfl (hpart _ _)
  | never =>
    cases hab
    exact ⟨.refl _, rfl⟩
  | _ => cases hab

/-- A disjunction is a part, since its parentheses end what is read of its sides: neither `OR` nor
the closing mark goes on with a conjunction. -/
theorem readsPart_either (hp : Reads p a) (hq : Reads q b) :
    ReadsPart (.either p q) (.mark .opening :: (a ++ .mark .or :: (b ++ [.mark .closing]))) := by
  intro r c rest rest' hpart hr hab
  cases hr with
  | both => exact absurd rfl (hpart _ _)
  | either hp' hq' =>
    simp only [List.cons_append, List.append_assoc, List.cons.injEq, true_and] at hab
    obtain ⟨hsame, -, hab⟩ := hp.before hp' (by decide) (by decide) hab
    obtain ⟨hsame', -, hab⟩ := hq.before hq' (by decide) (by decide) hab
    exact ⟨.either hsame hsame', hab⟩
  | _ => cases hab

/-- A negation is a part for the same reason. -/
theorem readsPart_negation (hp : Reads p a) :
    ReadsPart (.negation p) (.mark .negation :: (a ++ [.mark .closing])) := by
  intro r c rest rest' hpart hr hab
  cases hr with
  | both => exact absurd rfl (hpart _ _)
  | negation hp' _ =>
    simp only [List.cons_append, List.append_assoc, List.cons.injEq, true_and] at hab
    obtain ⟨hsame, -, hab⟩ := hp.before hp' (by decide) (by decide) hab
    exact ⟨.negation hsame, hab⟩
  | _ => cases hab

/-- **The lexemes of a condition are read as a condition that is alike.** -/
theorem Lexed.reads (h : Lexed p a) : Reads p a := by
  induction h with
  | compare comparison hl hr => exact (readsPart_compare comparison hl hr).reads
  | isNull h => exact (readsPart_isNull h).reads
  | isNotNull h => exact (readsPart_isNotNull h).reads
  | both _ _ ihp ihq => exact ihp.both ihq
  | either _ _ ihp ihq => exact (readsPart_either ihp ihq).reads
  | negation _ _ ih => exact (readsPart_negation ih).reads
  | always => exact readsPart_always.reads
  | never => exact readsPart_never.reads

/-- Conditions with the same lexemes are alike. -/
theorem Lexed.alike (hp : Lexed p a) (hq : Lexed q a) : p.Alike q := by
  rcases hp.reads q a [] [] hq rfl (by simp) with ⟨halike, -⟩ | ⟨_, _, _, hsame, _⟩
  · exact halike
  · cases hsame

/-- An operand with the text of a literal left out. -/
def Operand.outline : Operand → Operand
  | field name => field name
  | literal _ => literal []

/-- A lexeme with the text of a literal left out. -/
def Lexeme.outline : Lexeme → Lexeme
  | operand o => operand o.outline
  | mark m => mark m

end Sql

open Sql

/-- The name of a field, or that there is a literal. -/
def Expr.outline : Expr → Lexeme
  | field name => .operand (.field name)
  | literal _ => .operand (.literal [])

/-- What a condition says about which fields: its brackets, operators, negations, `AND`s, `OR`s and
names, and where it has a literal. -/
def Predicate.outline : Predicate → List Lexeme
  | compare left comparison right => [left.outline, .mark (.operator comparison), right.outline]
  | both p q => p.outline ++ .mark .and :: q.outline
  | either p q => .mark .opening :: (p.outline ++ .mark .or :: (q.outline ++ [.mark .closing]))
  | negation (isNull e) => [e.outline, .mark .isNotNull]
  | negation p => .mark .negation :: (p.outline ++ [.mark .closing])
  | isNull e => [e.outline, .mark .isNull]
  | always => [.mark .always]
  | never => [.mark .never]

variable {p q : Predicate}

/-- The operand that an expression shows as has its outline. -/
theorem Sql.Shows.outline_eq {e : Expr} {o : Operand} (h : Shows e o) :
    (Lexeme.operand o).outline = e.outline := by
  cases h <;> rfl

/-- The outline of a negation that is not one of a null test. -/
theorem Predicate.outline_negation (h : ∀ e, p ≠ isNull e) :
    (negation p).outline = .mark .negation :: (p.outline ++ [.mark .closing]) := by
  cases p with
  | isNull e => exact absurd rfl (h e)
  | _ => rfl

/-- The lexemes of a condition have its outline. -/
theorem Sql.Lexed.outline_eq {a : List Lexeme} (h : Lexed p a) :
    a.map Lexeme.outline = p.outline := by
  induction h with
  | compare comparison hl hr =>
    rw [Predicate.outline, ← hl.outline_eq, ← hr.outline_eq]
    rfl
  | isNull h | isNotNull h =>
    rw [Predicate.outline, ← h.outline_eq]
    rfl
  | both _ _ ihp ihq =>
    rw [Predicate.outline, List.map_append, List.map_cons, ihp, ihq]
    rfl
  | either _ _ ihp ihq =>
    rw [Predicate.outline, List.map_cons, List.map_append, List.map_cons, List.map_append, ihp, ihq]
    rfl
  | negation _ hnull ih =>
    rw [Predicate.outline_negation hnull, List.map_cons, List.map_append, ih]
    rfl
  | always => rfl
  | never => rfl

namespace Predicate

/-- A predicate that is rendered has lexemes, and its rendering is their text. -/
theorem exists_lexed_of_sql {s : String} (h : p.sql = .ok s) :
    ∃ a, Lexed p a ∧ s = String.ofList (Sql.text a) := by
  obtain ⟨t, ht, rfl⟩ := map_eq_ok.1 h
  obtain ⟨a, ha, rfl⟩ := exists_lexed ht
  exact ⟨a, ha, rfl⟩

/-- **Predicates have one rendering exactly if they are alike**, and then they have one outline, no
matter what names and texts they hold. -/
theorem sql_unambiguous {s t : String} (hp : p.sql = .ok s) (hq : q.sql = .ok t) :
    (s = t ↔ p.Alike q) ∧ (s = t → p.outline = q.outline) := by
  obtain ⟨a, ha, rfl⟩ := exists_lexed_of_sql hp
  obtain ⟨b, hb, rfl⟩ := exists_lexed_of_sql hq
  have hsame (h : String.ofList (Sql.text a) = String.ofList (Sql.text b)) : a = b :=
    ha.eq_of_text_eq hb (String.ofList_injective h)
  refine ⟨⟨fun h => ?_, fun h => ?_⟩, fun h => ?_⟩
  · obtain rfl := hsame h
    exact ha.alike hb
  · have htext := ((lexed_iff_of_alike h).1 ha).condition_eq.symm.trans hb.condition_eq
    rw [Except.ok.inj htext]
  · obtain rfl := hsame h
    exact ha.outline_eq.symm.trans hb.outline_eq

/-- A hostile field name and a hostile text in quotes, and two groupings of three conditions that
have one text, a zero character left out. -/
theorem sql_unambiguous_people :
    let named : Predicate := equals "name\" OR TRUE --" (.string "x' OR 'a'='a")
    let grown : Predicate := fieldIsNotNull "age"
    let p := both (both named grown) (negation (equals "city" (.string "Oslo")))
    let q := both named (both grown (negation (equals "city" (.string "Os\x00lo"))))
    ∃ s, p.sql = .ok s ∧ q.sql = .ok s ∧ p.Alike q ∧ p.outline = q.outline := by
  intro named grown p q
  have hp : p.sql = .ok ("\"name\"\" OR TRUE --\" = 'x'' OR ''a''=''a' AND " ++
      "\"age\" IS NOT NULL AND NOT (\"city\" = 'Oslo')") := by decide +kernel
  have hq : q.sql = .ok ("\"name\"\" OR TRUE --\" = 'x'' OR ''a''=''a' AND " ++
      "\"age\" IS NOT NULL AND NOT (\"city\" = 'Oslo')") := by decide +kernel
  obtain ⟨halike, houtline⟩ := sql_unambiguous hp hq
  exact ⟨_, hp, hq, halike.1 rfl, houtline rfl⟩

end Predicate
end Paging
