/-
# Which texts are orders

The texts of an order are described without the reader of them (`Writes`): clauses with commas
between them, each a name after `-`, `+` or nothing, and blanks at both ends, around commas and
between a sign and its name. The reader takes each part as far as it goes, and a part never goes
into what follows it: a name ends before a blank, a comma or the end, and blanks end before what is
not blank. So a text is read as an order exactly if it is a writing of that order, and every other
text has a fault at one place of it (`parse_iff_writes`).

There is an equivalence for each part of the grammar: names (`name?_eq_some_iff`), clauses
(`clause_eq_ok_iff`) and whole texts (`parse_eq_ok_iff`). Where reading stops, what is left is a
suffix of what was given (`suffix_of_clauses`), so that a fault is at one place of the text.
-/
import Mathlib.Data.List.TakeWhile
import Paging.Order.Clause
import Paging.Proofs.Outcome
import Paging.Proofs.Text.Digits

namespace Paging
namespace OrderText

/-- A run of spaces, tabs and line ends, or nothing. -/
def Blanks (text : List Char) : Prop :=
  ∀ c ∈ text, c = ' ' ∨ c = '\t' ∨ c = '\r' ∨ c = '\n'

/-- A letter of the basic alphabet. -/
def Letter (c : Char) : Prop :=
  ('A' ≤ c ∧ c ≤ 'Z') ∨ ('a' ≤ c ∧ c ≤ 'z')

/-- A letter or `_`, and then any number of letters, digits, `_` and `.`. -/
inductive IsName : List Char → Prop
  | mk {c : Char} {rest : List Char} (hc : Letter c ∨ c = '_')
      (hrest : ∀ d ∈ rest, Letter d ∨ ('0' ≤ d ∧ d ≤ '9') ∨ d = '_' ∨ d = '.') : IsName (c :: rest)

/-- What may stand before a name for a direction. -/
inductive Sign : SortDirection → List Char → Prop
  | bare : Sign .asc []
  | plus {gap : List Char} (hgap : Blanks gap) : Sign .asc ('+' :: gap)
  | minus {gap : List Char} (hgap : Blanks gap) : Sign .desc ('-' :: gap)

/-- The writings of one clause. -/
inductive WritesClause : OrderItem → List Char → Prop
  | mk {direction : SortDirection} {sign name : List Char} (hsign : Sign direction sign)
      (hname : IsName name) : WritesClause ⟨String.ofList name, direction⟩ (sign ++ name)

/-- The writings of an order: its clauses with commas between them, and blanks around each. -/
inductive Writes : OrderBy → List Char → Prop
  | last {item : OrderItem} {lead clause trail : List Char} (hlead : Blanks lead)
      (hclause : WritesClause item clause) (htrail : Blanks trail) :
      Writes [item] (lead ++ (clause ++ trail))
  | comma {item : OrderItem} {order : OrderBy} {lead clause trail more : List Char}
      (hlead : Blanks lead) (hclause : WritesClause item clause) (htrail : Blanks trail)
      (hmore : Writes order more) :
      Writes (item :: order) (lead ++ (clause ++ (trail ++ ',' :: more)))

variable {text rest : List Char} {item : OrderItem} {order : OrderBy}

/-- The four characters of the grammar's implicit whitespace. -/
theorem isBlank_iff (c : Char) : isBlank c ↔ c = ' ' ∨ c = '\t' ∨ c = '\r' ∨ c = '\n' := by
  simp only [isBlank, Bool.or_eq_true, beq_iff_eq, or_assoc]

/-- The scanner's test of letters is the grammar's range of ASCII letters. -/
theorem isAlpha_iff (c : Char) : c.isAlpha ↔ Letter c := by
  unfold Char.isAlpha Char.isUpper Char.isLower
  simp only [Bool.or_eq_true, Bool.and_eq_true, decide_eq_true_iff]
  exact Iff.rfl

/-- A name begins with a letter or an underscore. -/
theorem beginsName_iff (c : Char) : beginsName c ↔ Letter c ∨ c = '_' := by
  rw [beginsName, Bool.or_eq_true, isAlpha_iff, beq_iff_eq]

/-- A name goes on with letters, digits, underscores and points. -/
theorem continuesName_iff (c : Char) :
    continuesName c ↔ Letter c ∨ ('0' ≤ c ∧ c ≤ '9') ∨ c = '_' ∨ c = '.' := by
  have hdigit : c.isDigit ↔ '0' ≤ c ∧ c ≤ '9' := by
    simp only [Char.isDigit, Bool.and_eq_true, decide_eq_true_iff]
    exact Iff.rfl
  simp only [continuesName, Char.isAlphanum, Bool.or_eq_true, isAlpha_iff, hdigit, beq_iff_eq,
    or_assoc]

/-- The empty text is blank. -/
theorem Blanks.nil : Blanks [] := fun _ h => absurd h List.not_mem_nil

/-- What stands after a part of the text does not go on with it. -/
def Ends (continues : Char → Bool) (rest : List Char) : Prop :=
  ∀ c ∈ rest.head?, continues c = false

/-- Blanks before a text are skipped together with those that the text begins with. -/
theorem skipBlanks_append {lead : List Char} (h : Blanks lead) (rest : List Char) :
    skipBlanks (lead ++ rest) = skipBlanks rest :=
  List.dropWhile_append_of_pos fun c hc => (isBlank_iff c).2 (h c hc)

/-- There is nothing to skip before a text that does not begin with a blank. -/
theorem skipBlanks_eq_self (h : Ends isBlank text) : skipBlanks text = text :=
  Text.dropWhile_of_head? h

/-- After the characters of a kind are dropped, the text does not begin with another of them. -/
theorem ends_dropWhile (p : Char → Bool) (text : List Char) : Ends p (text.dropWhile p) := by
  intro c hc
  have hnot := List.head?_dropWhile_not p text
  rw [Option.mem_def.1 hc] at hnot
  exact hnot

/-- What is skipped are blanks. -/
theorem exists_blanks (text : List Char) : ∃ lead, Blanks lead ∧ text = lead ++ skipBlanks text :=
  ⟨text.takeWhile isBlank, fun c hc => (isBlank_iff c).1 (List.mem_takeWhile_imp hc),
    List.takeWhile_append_dropWhile.symm⟩

/-- Letters and the underscore lie within one stretch of code points, which has no blank and no sign
in it. -/
theorem Letter.bounds {c : Char} (h : Letter c ∨ c = '_') : 65 ≤ c.toNat ∧ c.toNat ≤ 122 := by
  rcases h with (⟨hlow, hhigh⟩ | ⟨hlow, hhigh⟩) | rfl
  · exact ⟨hlow, le_trans hhigh (by decide)⟩
  · exact ⟨le_trans (by decide) hlow, hhigh⟩
  · decide

/-- **A name is read to its end.** -/
theorem name?_eq_some_iff {name : List Char} :
    name? text = some (name, rest) ↔
      IsName name ∧ text = name ++ rest ∧ Ends continuesName rest := by
  constructor
  · intro h
    cases text with
    | nil => cases h
    | cons c cs =>
      rw [name?] at h
      split_ifs at h with hc
      obtain ⟨rfl, rfl⟩ := Prod.mk.inj (Option.some.inj h)
      have hname : IsName (c :: cs.takeWhile continuesName) := .mk ((beginsName_iff c).1 hc)
        fun d hd => (continuesName_iff d).1 (List.mem_takeWhile_imp hd)
      refine ⟨hname, ?_, ends_dropWhile continuesName cs⟩
      rw [List.cons_append, List.takeWhile_append_dropWhile]
  · rintro ⟨hname, rfl, hends⟩
    cases hname with
    | @mk c cs hc hcs =>
      -- the scanner takes all of the name, and nothing of what follows it
      have hcontinues : ∀ d ∈ cs, continuesName d := fun d hd => (continuesName_iff d).2 (hcs d hd)
      rw [List.cons_append, name?, if_pos ((beginsName_iff c).2 hc),
        List.takeWhile_append_of_pos hcontinues, List.dropWhile_append_of_pos hcontinues,
        Text.takeWhile_of_head? hends, Text.dropWhile_of_head? hends, List.append_nil]

/-- **The scanner reads a name to its end.** It succeeds exactly on a name that is followed by a
character that no name goes on with, and leaves the rest. -/
theorem namedClause_eq_ok_iff {expected : Expected} {direction : SortDirection} :
    namedClause expected direction text = .ok (item, rest) ↔ ∃ name, IsName name ∧
      text = name ++ rest ∧ Ends continuesName rest ∧ item = ⟨String.ofList name, direction⟩ := by
  unfold namedClause
  constructor
  · intro h
    split at h
    · next name _ hname =>
      obtain ⟨rfl, rfl⟩ := Prod.mk.inj (Except.ok.inj h)
      obtain ⟨hname, htext, hends⟩ := name?_eq_some_iff.1 hname
      exact ⟨name, hname, htext, hends, rfl⟩
    · cases h
  · rintro ⟨name, hname, htext, hends, rfl⟩
    rw [name?_eq_some_iff.2 ⟨hname, htext, hends⟩]

/-- A clause without a sign. -/
theorem clause_bare (hplus : text.head? ≠ some '+') (hminus : text.head? ≠ some '-') :
    clause text = namedClause .clause .asc text := by
  unfold clause
  split
  · exact absurd rfl hplus
  · exact absurd rfl hminus
  · rfl

/-- A name is taken neither for blanks nor for a sign. -/
theorem IsName.begins {name : List Char} (h : IsName name) (rest : List Char) :
    Ends isBlank (name ++ rest) ∧ (name ++ rest).head? ≠ some '+' ∧
      (name ++ rest).head? ≠ some '-' := by
  cases h with
  | @mk c cs hc _ =>
    obtain ⟨hlow, -⟩ := Letter.bounds hc
    refine ⟨fun d hd => ?_, ?_, ?_⟩
    · obtain rfl := Option.some.inj hd
      refine eq_false_of_ne_true fun hblank => ?_
      rcases (isBlank_iff c).1 hblank with rfl | rfl | rfl | rfl <;> exact absurd hlow (by decide)
    · rintro ⟨⟩
      exact absurd hlow (by decide)
    · rintro ⟨⟩
      exact absurd hlow (by decide)

/-- A written clause begins with its sign or its name, not with a blank. -/
theorem WritesClause.begins {written : List Char} (h : WritesClause item written)
    (rest : List Char) : Ends isBlank (written ++ rest) := by
  cases h with
  | mk hsign hname =>
    cases hsign with
    | bare => exact (hname.begins rest).1
    | plus _ =>
      rintro c ⟨⟩
      rfl
    | minus _ =>
      rintro c ⟨⟩
      rfl

/-- **A clause is read to its end.** -/
theorem clause_eq_ok_iff : clause text = .ok (item, rest) ↔
    ∃ written, WritesClause item written ∧ text = written ++ rest ∧ Ends continuesName rest := by
  constructor
  · intro h
    -- a plus, a minus or neither stands before the name
    unfold clause at h
    split at h
    · next cs =>
      obtain ⟨gap, hgap, hcs⟩ := exists_blanks cs
      obtain ⟨name, hname, htext, hends, rfl⟩ := namedClause_eq_ok_iff.1 h
      refine ⟨_, .mk (.plus hgap) hname, ?_, hends⟩
      rw [List.append_assoc, ← htext, List.cons_append, ← hcs]
    · next cs =>
      obtain ⟨gap, hgap, hcs⟩ := exists_blanks cs
      obtain ⟨name, hname, htext, hends, rfl⟩ := namedClause_eq_ok_iff.1 h
      refine ⟨_, .mk (.minus hgap) hname, ?_, hends⟩
      rw [List.append_assoc, ← htext, List.cons_append, ← hcs]
    · obtain ⟨name, hname, htext, hends, rfl⟩ := namedClause_eq_ok_iff.1 h
      exact ⟨_, .mk .bare hname, htext, hends⟩
  · rintro ⟨_, @⟨direction, sign, name, hsign, hname⟩, rfl, hends⟩
    -- a name begins with no blank and no sign, so the scanner takes the branch of the sign that is
    -- written
    obtain ⟨hblank, hplus, hminus⟩ := hname.begins rest
    have hread : ∀ expected, namedClause expected direction (name ++ rest) =
        .ok (⟨String.ofList name, direction⟩, rest) :=
      fun _ => namedClause_eq_ok_iff.2 ⟨name, hname, rfl, hends, rfl⟩
    have hskip : ∀ {gap}, Blanks gap → skipBlanks (gap ++ (name ++ rest)) = name ++ rest := by
      intro gap hgap
      rw [skipBlanks_append hgap, skipBlanks_eq_self hblank]
    rw [List.append_assoc]
    cases hsign with
    | bare => exact (clause_bare hplus hminus).trans (hread _)
    | plus hgap => exact (congrArg (namedClause .name .asc) (hskip hgap)).trans (hread _)
    | minus hgap => exact (congrArg (namedClause .name .desc) (hskip hgap)).trans (hread _)

/-- What follows a clause decides how the text goes on. -/
theorem clauses_of_clause (h : clause text = .ok (item, rest)) :
    clauses text = match skipBlanks rest with
      | [] => .ok [item]
      | ',' :: more => (clauses (skipBlanks more)).map (item :: ·)
      | after => .error (.endOfText, after) := by
  rw [clauses]
  split
  · next heq => rw [h] at heq; cases heq
  · next heq =>
    rw [h] at heq
    obtain ⟨rfl, rfl⟩ := Prod.mk.inj (Except.ok.inj heq)
    split <;> simp_all

/-- Blanks do not go on with a name. -/
theorem Blanks.ends {trail : List Char} (h : Blanks trail) (hrest : Ends continuesName rest) :
    Ends continuesName (trail ++ rest) := by
  cases trail with
  | nil => exact hrest
  | cons c cs =>
    rintro d ⟨⟩
    rcases h c List.mem_cons_self with rfl | rfl | rfl | rfl <;> rfl

/-- A clause between blanks is read, and so are the blanks. -/
theorem clauses_written {lead written trail : List Char} (hlead : Blanks lead)
    (hclause : WritesClause item written) (htrail : Blanks trail)
    (hrest : Ends continuesName rest) :
    clauses (skipBlanks (lead ++ (written ++ (trail ++ rest)))) = match skipBlanks rest with
      | [] => .ok [item]
      | ',' :: more => (clauses (skipBlanks more)).map (item :: ·)
      | after => .error (.endOfText, after) := by
  rw [skipBlanks_append hlead, skipBlanks_eq_self (hclause.begins _),
    clauses_of_clause (clause_eq_ok_iff.2 ⟨written, hclause, rfl, htrail.ends hrest⟩),
    skipBlanks_append htrail]

/-- **Every writing is read** as the order that it writes. -/
theorem Writes.clauses_eq (h : Writes order text) : clauses (skipBlanks text) = .ok order := by
  induction h with
  | last hlead hclause htrail =>
    have hends : Ends continuesName [] := fun c hc => by cases hc
    have hread := clauses_written hlead hclause htrail hends
    rw [List.append_nil] at hread
    exact hread
  | @comma item order lead written trail more hlead hclause htrail hmore ih =>
    have hends : Ends continuesName (',' :: more) := by
      rintro c ⟨⟩
      rfl
    have hcomma : skipBlanks (',' :: more) = ',' :: more := skipBlanks_eq_self (by
      rintro c ⟨⟩
      rfl)
    rw [clauses_written hlead hclause htrail hends, hcomma]
    exact map_eq_ok.2 ⟨order, ih, rfl⟩

/-- Blanks in front belong to the writing. -/
theorem Writes.append {lead : List Char} (hlead : Blanks lead) (h : Writes order text) :
    Writes order (lead ++ text) := by
  have hboth : ∀ {other}, Blanks other → Blanks (lead ++ other) := fun hother c hc =>
    (List.mem_append.1 hc).elim (hlead c) (hother c)
  cases h with
  | last hother hclause htrail =>
    rw [← List.append_assoc]
    exact .last (hboth hother) hclause htrail
  | comma hother hclause htrail hmore =>
    rw [← List.append_assoc]
    exact .comma (hboth hother) hclause htrail hmore

/-- **Only writings are read.** -/
theorem writes_of_clauses (h : clauses text = .ok order) : Writes order text := by
  fun_induction clauses text generalizing order with
  | case1 => cases h
  | case2 text item rest hclause hskip =>
    obtain rfl := Except.ok.inj h
    obtain ⟨written, hwrites, rfl, -⟩ := clause_eq_ok_iff.1 hclause
    obtain ⟨trail, htrail, hrest⟩ := exists_blanks rest
    rw [hskip, List.append_nil] at hrest
    exact .last Blanks.nil hwrites (hrest ▸ htrail)
  | case3 text item rest hclause more hskip _ _ _ _ ih =>
    obtain ⟨later, hlater, rfl⟩ := map_eq_ok.1 h
    obtain ⟨written, hwrites, rfl, -⟩ := clause_eq_ok_iff.1 hclause
    obtain ⟨trail, htrail, hrest⟩ := exists_blanks rest
    obtain ⟨gap, hgap, hmore⟩ := exists_blanks more
    rw [hskip] at hrest
    have hwritten : Writes later more := hmore ▸ (ih hlater).append hgap
    rw [hrest]
    exact .comma Blanks.nil hwrites htrail hwritten
  | case4 => cases h

/-- Skipping blanks leaves a suffix of the text. -/
theorem skipBlanks_suffix (text : List Char) : skipBlanks text <:+ text :=
  List.dropWhile_suffix isBlank

/-- A failure to read a name is reported at a suffix of the text, which is how the error's column is
counted. -/
theorem suffix_of_namedClause {expected : Expected} {direction : SortDirection}
    {failure : Failure} (h : namedClause expected direction text = .error failure) :
    failure.2 <:+ text := by
  unfold namedClause at h
  split at h
  · cases h
  · obtain rfl := Except.error.inj h
    exact List.suffix_refl text

/-- A failure to read a clause is reported at a suffix of the text. -/
theorem suffix_of_clause {failure : Failure} (h : clause text = .error failure) :
    failure.2 <:+ text := by
  unfold clause at h
  split at h
  · next cs =>
    exact (suffix_of_namedClause h).trans ((skipBlanks_suffix cs).trans (List.suffix_cons '+' cs))
  · next cs =>
    exact (suffix_of_namedClause h).trans ((skipBlanks_suffix cs).trans (List.suffix_cons '-' cs))
  · exact suffix_of_namedClause h

/-- A fault is at a place of the text: what is left there is an end of it. -/
theorem suffix_of_clauses {failure : Failure} (h : clauses text = .error failure) :
    failure.2 <:+ text := by
  fun_induction clauses text generalizing failure with
  | case1 text cause hclause =>
    obtain rfl := Except.error.inj h
    exact suffix_of_clause hclause
  | case2 => cases h
  | case3 text item rest hclause more hskip _ _ _ _ ih =>
    obtain ⟨written, -, rfl, -⟩ := clause_eq_ok_iff.1 hclause
    have hmore : more <:+ rest := (List.suffix_cons ',' more).trans (hskip ▸ skipBlanks_suffix rest)
    exact (ih (map_eq_error.1 h)).trans
      ((skipBlanks_suffix more).trans (hmore.trans (List.suffix_append written rest)))
  | case4 text item rest hclause =>
    obtain rfl := Except.error.inj h
    obtain ⟨written, -, rfl, -⟩ := clause_eq_ok_iff.1 hclause
    exact (skipBlanks_suffix rest).trans (List.suffix_append written rest)

/-- The parser returns an order exactly for the texts that write it: the grammar and the scanner
agree on each clause, and on the commas and blanks between them. -/
theorem parse_eq_ok_iff {text : String} : parse text = .ok order ↔ Writes order text.toList := by
  obtain ⟨lead, hlead, htext⟩ := exists_blanks text.toList
  unfold parse
  constructor
  · intro h
    split at h
    · next hclauses =>
      obtain rfl := Except.ok.inj h
      rw [htext]
      exact (writes_of_clauses hclauses).append hlead
    · cases h
  · intro h
    rw [h.clauses_eq]

/-- A text that is no order has its fault at one place. -/
theorem exists_fault_iff {text : String} :
    (∃ fault, parse text = .error fault ∧ text.toList = fault.before ++ fault.after) ↔
      ¬∃ order, Writes order text.toList := by
  constructor
  · rintro ⟨fault, hfault, -⟩ ⟨order, horder⟩
    rw [parse_eq_ok_iff.2 horder] at hfault
    cases hfault
  · intro h
    cases hparse : parse text with
    | ok order => exact absurd ⟨order, parse_eq_ok_iff.1 hparse⟩ h
    | error fault =>
      refine ⟨fault, rfl, ?_⟩
      unfold parse at hparse
      split at hparse
      · cases hparse
      · next expected after hclauses =>
        obtain rfl := Except.error.inj hparse
        have hsuffix := (suffix_of_clauses hclauses).trans (skipBlanks_suffix text.toList)
        exact (List.suffix_iff_eq_append.1 hsuffix).symm

/-- Only fields whose names are names of the grammar have clauses. -/
theorem WritesClause.isName {written : List Char} (h : WritesClause item written) :
    IsName item.field.toList := by
  cases h with
  | mk hsign hname =>
    rw [String.toList_ofList]
    exact hname

/-- Each item whose field is a name of the grammar can be written. -/
theorem exists_writesClause (h : IsName item.field.toList) :
    ∃ written, WritesClause item written := by
  obtain ⟨sign, hsign⟩ : ∃ sign, Sign item.direction sign := by
    cases item.direction with
    | asc => exact ⟨_, .bare⟩
    | desc => exact ⟨_, .minus Blanks.nil⟩
  have hwritten := WritesClause.mk hsign h
  rw [String.ofList_toList] at hwritten
  exact ⟨_, hwritten⟩

/-- **The lists that can be written**: there are clauses, and their fields are names. -/
theorem exists_writes_iff : (∃ text, Writes order text) ↔
    order ≠ [] ∧ ∀ item ∈ order, IsName item.field.toList := by
  constructor
  · rintro ⟨text, h⟩
    refine ⟨by cases h <;> exact List.cons_ne_nil _ _, ?_⟩
    induction h with
    | last _ hclause _ => exact List.forall_mem_singleton.2 hclause.isName
    | comma _ hclause _ _ ih => exact List.forall_mem_cons.2 ⟨hclause.isName, ih⟩
  · rintro ⟨hne, hnames⟩
    induction order with
    | nil => exact absurd rfl hne
    | cons item rest ih =>
      obtain ⟨hname, hrest⟩ := List.forall_mem_cons.1 hnames
      obtain ⟨written, hwritten⟩ := exists_writesClause hname
      by_cases hlast : rest = []
      · rw [hlast]
        exact ⟨_, .last Blanks.nil hwritten Blanks.nil⟩
      · obtain ⟨more, hmore⟩ := ih hlast hrest
        exact ⟨_, .comma Blanks.nil hwritten Blanks.nil hmore⟩

/-- **What the reader of orders accepts.** A list of fields with directions can be written if there
is at least one and each field is a name. Every writing of it, with any blanks and any signs, is
read as that very list, and a text that is read as a list is a writing of it. Every other text has
a fault, which splits it at one place. -/
theorem parse_iff_writes :
    (∀ order, (∃ text, Writes order text) ↔
      order ≠ [] ∧ ∀ item ∈ order, IsName item.field.toList) ∧
    (∀ (text : String) (order : OrderBy), parse text = .ok order ↔ Writes order text.toList) ∧
    ∀ text : String,
      (∃ fault, parse text = .error fault ∧ text.toList = fault.before ++ fault.after) ↔
        ¬∃ order, Writes order text.toList :=
  ⟨fun _ => exists_writes_iff, fun _ _ => parse_eq_ok_iff, fun _ => exists_fault_iff⟩

/-- A sign with blanks behind it, and a doubled comma, of which the second is at fault. -/
example : parse "fn,\t- ln\n" = .ok [⟨"fn", .asc⟩, ⟨"ln", .desc⟩] ∧
    parse "fn,, ln" = .error ⟨"fn,".toList, ", ln".toList, .clause⟩ := by
  decide +kernel

end OrderText
end Paging
