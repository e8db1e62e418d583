/-
# The lexemes of a condition

A condition in SQL is a row of lexemes: operands, and fixed marks such as operators, brackets and
the words between conditions (`Lexed`). No mark begins another one, an operand begins like no mark,
and it ends before a blank, before a closing bracket or at the end of the text: a quote inside
quotes is written twice, and numbers and truth values hold neither blanks nor brackets. So a text is
cut into lexemes in one way only, whatever names and texts hold (`text_injective`).

Each of these facts is a lemma on the front of a text. Marks are told from each other by a finite
check (`Mark.text_append_inj`), operands from marks by their first characters
(`Operand.IsWritten.text_append_ne`), and an operand from a longer one by where it ends
(`Operand.text_append_inj`): at a quote that is not written twice (`quoted_append_inj`), or where
plain characters stop (`Stops`).
-/
import Paging.Predicate.Sql
import Paging.Proofs.Number.Shortest
import Paging.Proofs.Outcome

namespace Paging
namespace Sql

/-- An operand as it is written: the name of a field, or the text of a literal. -/
inductive Operand
  | field (name : String)
  | literal (text : List Char)
  deriving DecidableEq, Repr

/-- A fixed text between operands. -/
inductive Mark
  | operator (comparison : Comparison)
  | isNull
  | isNotNull
  | and
  | or
  | opening
  | closing
  | negation
  | always
  | never
  deriving DecidableEq, Repr

/-- A part of a condition that is written as one piece. -/
inductive Lexeme
  | operand (operand : Operand)
  | mark (mark : Mark)
  deriving DecidableEq, Repr

/-- The text of an operand. -/
def Operand.text : Operand → List Char
  | field name => identifier name
  | literal text => text

/-- The text of a mark, with the blanks around it. -/
def Mark.text : Mark → List Char
  | operator comparison => ' ' :: Sql.operator comparison ++ [' ']
  | isNull => " IS NULL".toList
  | isNotNull => " IS NOT NULL".toList
  | and => " AND ".toList
  | or => " OR ".toList
  | opening => ['(']
  | closing => [')']
  | negation => "NOT (".toList
  | always => "TRUE".toList
  | never => "FALSE".toList

/-- The text of a lexeme. -/
def Lexeme.text : Lexeme → List Char
  | operand o => o.text
  | mark m => m.text

/-- The text of lexemes in a row. -/
def text (lexemes : List Lexeme) : List Char :=
  lexemes.flatMap Lexeme.text

/-- The operand of a condition as it is written. -/
inductive Shows : Expr → Operand → Prop
  | field (name : String) : Shows (.field name) (.field name)
  | literal {v : Value} {text : List Char} (h : literal v = .ok text) :
      Shows (.literal v) (.literal text)

/-- The lexemes of a condition. -/
inductive Lexed : Predicate → List Lexeme → Prop
  | compare {left right : Expr} {l r : Operand} (comparison : Comparison) (hl : Shows left l)
      (hr : Shows right r) : Lexed (.compare left comparison right)
        [.operand l, .mark (.operator comparison), .operand r]
  | isNull {e : Expr} {o : Operand} (h : Shows e o) : Lexed (.isNull e) [.operand o, .mark .isNull]
  | isNotNull {e : Expr} {o : Operand} (h : Shows e o) :
      Lexed (.negation (.isNull e)) [.operand o, .mark .isNotNull]
  | both {p q : Predicate} {a b : List Lexeme} (hp : Lexed p a) (hq : Lexed q b) :
      Lexed (.both p q) (a ++ .mark .and :: b)
  | either {p q : Predicate} {a b : List Lexeme} (hp : Lexed p a) (hq : Lexed q b) :
      Lexed (.either p q) (.mark .opening :: (a ++ .mark .or :: (b ++ [.mark .closing])))
  | negation {p : Predicate} {a : List Lexeme} (hp : Lexed p a) (hnull : ∀ e, p ≠ .isNull e) :
      Lexed (.negation p) (.mark .negation :: (a ++ [.mark .closing]))
  | always : Lexed .always [.mark .always]
  | never : Lexed .never [.mark .never]

variable {p : Predicate} {rest rest' : List Char}

/-- No lexemes have the empty text. -/
@[simp] theorem text_nil : text [] = [] := rfl

/-- A lexeme before others is written before them. -/
@[simp] theorem text_cons (l : Lexeme) (ls : List Lexeme) : text (l :: ls) = l.text ++ text ls :=
  List.flatMap_cons

/-- Texts of lexemes follow one another without anything in between. -/
@[simp] theorem text_append (a b : List Lexeme) : text (a ++ b) = text a ++ text b :=
  List.flatMap_append

/-- An expression that shows as an operand is rendered as its text. -/
theorem Shows.operand_eq {e : Expr} {o : Operand} (h : Shows e o) : operand e = .ok o.text := by
  cases h with
  | field name => rfl
  | literal h => exact h

/-- Each expression that is rendered at all shows as an operand: a column, or a literal. -/
theorem exists_shows {e : Expr} {t : List Char} (h : operand e = .ok t) :
    ∃ o, Shows e o ∧ t = o.text := by
  cases e with
  | literal v => exact ⟨_, .literal h, rfl⟩
  | field name => exact ⟨_, .field name, (Except.ok.inj h).symm⟩

/-- A negation is written around its operand in parentheses, unless the operand is a test of null,
which has a negated form of its own. -/
theorem condition_negation (h : ∀ e, p ≠ .isNull e) : condition (.negation p) =
    (condition p).bind fun i => .ok ("NOT (".toList ++ i ++ [')']) := by
  cases p with
  | isNull e => exact absurd rfl (h e)
  | _ => rfl

/-- **The rendering of a predicate is the text of its lexemes.** -/
theorem Lexed.condition_eq {a : List Lexeme} (h : Lexed p a) : condition p = .ok (text a) := by
  induction h with
  | compare comparison hl hr =>
    rw [condition, hl.operand_eq, hr.operand_eq]
    simp only [text_cons, text_nil, Lexeme.text, List.append_nil]
    refine congrArg Except.ok ?_
    rw [List.append_assoc]
    exact congrArg (_ ++ ·) (List.append_cons _ _ _)
  | isNull h | isNotNull h =>
    rw [condition, h.operand_eq]
    simp only [text_cons, text_nil, Lexeme.text, List.append_nil]
    rfl
  | both _ _ ihp ihq =>
    rw [condition, ihp, ihq]
    simp only [text_append, text_cons, Lexeme.text]
    exact congrArg Except.ok (List.append_assoc _ _ _)
  | either _ _ ihp ihq =>
    rw [condition, ihp, ihq]
    simp only [text_append, text_cons, text_nil, Lexeme.text, List.append_nil]
    refine congrArg Except.ok ?_
    rw [List.append_assoc, List.append_assoc]
    rfl
  | negation _ hnull ih =>
    rw [condition_negation hnull, ih]
    simp only [text_append, text_cons, text_nil, Lexeme.text, List.append_nil]
    exact congrArg Except.ok (List.append_assoc _ _ _)
  | always => rfl
  | never => rfl

/-- Every rendering is the text of lexemes. The induction follows the cases of the rendering, where
a negated null test comes before other negations. -/
theorem exists_lexed {t : List Char} (h : condition p = .ok t) : ∃ a, Lexed p a ∧ t = text a := by
  have hlexed : ∃ a, Lexed p a := by
    fun_induction condition p generalizing t with
    | case1 left comparison right =>
      obtain ⟨l, hl, h⟩ := bind_eq_ok.1 h
      obtain ⟨r, hr, -⟩ := bind_eq_ok.1 h
      obtain ⟨_, hshows, -⟩ := exists_shows hl
      obtain ⟨_, hshows', -⟩ := exists_shows hr
      exact ⟨_, .compare comparison hshows hshows'⟩
    | case2 p q ihp ihq =>
      obtain ⟨l, hl, h⟩ := bind_eq_ok.1 h
      obtain ⟨r, hr, -⟩ := bind_eq_ok.1 h
      obtain ⟨_, hp⟩ := ihp hl
      obtain ⟨_, hq⟩ := ihq hr
      exact ⟨_, .both hp hq⟩
    | case3 p q ihp ihq =>
      obtain ⟨l, hl, h⟩ := bind_eq_ok.1 h
      obtain ⟨r, hr, -⟩ := bind_eq_ok.1 h
      obtain ⟨_, hp⟩ := ihp hl
      obtain ⟨_, hq⟩ := ihq hr
      exact ⟨_, .either hp hq⟩
    | case4 e =>
      obtain ⟨_, ho, -⟩ := bind_eq_ok.1 h
      obtain ⟨_, hshows, -⟩ := exists_shows ho
      exact ⟨_, .isNotNull hshows⟩
    | case5 p hnull ih =>
      obtain ⟨_, hi, -⟩ := bind_eq_ok.1 h
      obtain ⟨_, hp⟩ := ih hi
      exact ⟨_, .negation hp hnull⟩
    | case6 e =>
      obtain ⟨_, ho, -⟩ := bind_eq_ok.1 h
      obtain ⟨_, hshows, -⟩ := exists_shows ho
      exact ⟨_, .isNull hshows⟩
    | case7 => exact ⟨_, .always⟩
    | case8 => exact ⟨_, .never⟩
  obtain ⟨a, ha⟩ := hlexed
  exact ⟨a, ha, Except.ok.inj (h.symm.trans ha.condition_eq)⟩

/-- A character between quotes. -/
def inQuotes (quote c : Char) : List Char :=
  if c = quote then [quote, quote] else [c]

/-- A quoted text before a rest: the quote, the characters each made safe, the closing quote, the
rest. -/
theorem quoted_append (quote : Char) (text rest : List Char) :
    quoted quote text ++ rest = quote :: (text.flatMap (inQuotes quote) ++ quote :: rest) :=
  congrArg (quote :: ·) (List.append_assoc _ _ _)

/-- The first character within quotes can be read off: a quote is doubled, so that its second half
is never taken for the character that follows. -/
theorem inQuotes_append_inj {quote c d : Char}
    (h : inQuotes quote c ++ rest = inQuotes quote d ++ rest') : c = d ∧ rest = rest' := by
  unfold inQuotes at h
  split_ifs at h with hc hd hd
  · exact ⟨hc.trans hd.symm, by simpa using h⟩
  · exact absurd (List.cons.inj h).1.symm hd
  · exact absurd (List.cons.inj h).1 hc
  · exact List.cons.inj h

/-- A closing quote is no character between quotes. -/
theorem inQuotes_append_ne {quote c : Char} (hrest : rest.head? ≠ some quote) (more : List Char) :
    inQuotes quote c ++ more ≠ quote :: rest := by
  intro h
  unfold inQuotes at h
  split_ifs at h with hc
  · obtain rfl := (List.cons.inj h).2
    exact absurd rfl hrest
  · exact absurd (List.cons.inj h).1 hc

/-- **A text between quotes ends at the first quote that is not written twice.** The induction is on
both texts: where one ends a quote stands alone, and where it goes on no quote does. -/
theorem quoted_append_inj {quote : Char} {a b : List Char} (hrest : rest.head? ≠ some quote)
    (hrest' : rest'.head? ≠ some quote)
    (h : quoted quote a ++ rest = quoted quote b ++ rest') : a = b ∧ rest = rest' := by
  rw [quoted_append, quoted_append, List.cons.injEq] at h
  replace h := h.2
  induction a generalizing b with
  | nil =>
    cases b with
    | nil => exact ⟨rfl, (List.cons.inj h).2⟩
    | cons d ds =>
      rw [List.flatMap_cons, List.append_assoc] at h
      exact absurd h.symm (inQuotes_append_ne hrest _)
  | cons c cs ih =>
    cases b with
    | nil =>
      rw [List.flatMap_cons, List.append_assoc] at h
      exact absurd h (inQuotes_append_ne hrest' _)
    | cons d ds =>
      rw [List.flatMap_cons, List.flatMap_cons, List.append_assoc, List.append_assoc] at h
      obtain ⟨rfl, hmore⟩ := inQuotes_append_inj h
      obtain ⟨rfl, hsame⟩ := ih hmore
      exact ⟨rfl, hsame⟩

/-- The characters of numbers and truth values. -/
def isPlain (c : Char) : Bool :=
  c.isDigit || c.isLower || c == '-' || c == '+' || c == '.'

/-- What a literal looks like: a text between quotes, or characters of numbers and truth values. -/
inductive LiteralText : List Char → Prop
  | quoted (body : List Char) : LiteralText (quoted '\'' body)
  | plain {text : List Char} (hne : text ≠ []) (h : ∀ c ∈ text, isPlain c) : LiteralText text

/-- Digits stand in plain literals. -/
theorem isPlain_of_isDigit {c : Char} (h : c.isDigit) : isPlain c := by
  simp [isPlain, h]

/-- Numerals of the grammar are plain literals. -/
theorem literalText_numeral {n : Numeral} (h : n.WellFormed) : LiteralText n.text := by
  obtain ⟨hne, hwhole, -, hfraction, hexponent⟩ := h
  refine .plain (by simp [Numeral.text, hne]) fun c hc => ?_
  simp only [Numeral.text, List.mem_append] at hc
  -- a character of the sign, the whole part, the fraction or the exponent
  rcases hc with ((hc | hc) | hc) | hc
  · split_ifs at hc
    · obtain rfl := List.mem_singleton.1 hc
      rfl
    · cases hc
  · exact isPlain_of_isDigit (hwhole c hc)
  · split_ifs at hc
    · cases hc
    · rcases List.mem_cons.1 hc with rfl | hc
      · rfl
      · exact isPlain_of_isDigit (hfraction c hc)
  · cases he : n.exponent with
    | none =>
      rw [he] at hc
      cases hc
    | some e =>
      obtain ⟨sign, digits⟩ := e
      rw [he] at hc
      obtain ⟨-, hdigits⟩ := hexponent sign digits he
      rcases List.mem_cons.1 hc with rfl | hc
      · rfl
      · rcases List.mem_append.1 hc with hc | hc
        · cases sign with
          | absent => cases hc
          | plus | minus =>
            obtain rfl := List.mem_singleton.1 hc
            rfl
        · exact isPlain_of_isDigit (hdigits c hc)

/-- A signed integer is written as its numeral. -/
theorem signed_eq (n : Int) : Text.signed n = (Numeral.ofInt n).text := by
  cases n <;> simp [Text.signed, Numeral.ofInt, Numeral.text]

/-- Each value that has a literal has one that is quoted or plain. -/
theorem literalText {v : Value} {t : List Char} (h : literal v = .ok t) : LiteralText t := by
  cases v with
  | string text =>
    obtain rfl := Except.ok.inj h
    exact .quoted _
  | timestamp time =>
    obtain rfl := Except.ok.inj h
    exact .quoted _
  | entityId id =>
    obtain rfl := Except.ok.inj h
    exact .quoted _
  | bool truth =>
    obtain rfl := Except.ok.inj h
    cases truth <;> exact .plain (by decide) (List.all_eq_true.1 rfl)
  | int number =>
    obtain rfl := Except.ok.inj h
    rw [signed_eq]
    exact literalText_numeral (Numeral.wellFormed_ofInt _)
  | float number =>
    -- only finite floats have literals, so the text is a numeral
    rw [literal] at h
    split_ifs at h with hfinite
    have hnan : number.isNaN = false := by
      unfold Binary64.isNaN
      unfold Binary64.isFinite at hfinite
      simp only [decide_eq_true_iff, decide_eq_false_iff_not] at hfinite ⊢
      omega
    obtain rfl := Except.ok.inj h
    rw [Binary64.text, hnan, if_pos hfinite]
    exact literalText_numeral (Binary64.wellFormed_numeral Binary64.plain number)


/-- All marks. -/
def Mark.all : List Mark :=
  [.operator .equal, .operator .notEqual, .operator .greater, .operator .greaterOrEqual,
    .operator .less, .operator .lessOrEqual, .isNull, .isNotNull, .and, .or, .opening, .closing,
    .negation, .always, .never]

/-- The list of marks has each of them. -/
theorem Mark.mem_all (m : Mark) : m ∈ Mark.all := by
  cases m with
  | operator comparison => cases comparison <;> decide
  | _ => decide

/-- No mark begins another one. -/
theorem Mark.eq_of_prefix {m m' : Mark} (h : m.text <+: m'.text) : m = m' := by
  have hall : ∀ m ∈ Mark.all, ∀ m' ∈ Mark.all, m.text <+: m'.text → m = m' := by decide
  exact hall m m.mem_all m' m'.mem_all h

/-- No mark is written as the front of another's text with something after it, so the mark at the
front of a text is the only one. -/
theorem Mark.text_append_inj {m m' : Mark} (h : m.text ++ rest = m'.text ++ rest') :
    m = m' ∧ rest = rest' := by
  have hm : m = m' := by
    rcases List.prefix_or_prefix_of_prefix (List.prefix_append m.text rest)
      (h ▸ List.prefix_append m'.text rest') with hprefix | hprefix
    · exact Mark.eq_of_prefix hprefix
    · exact (Mark.eq_of_prefix hprefix).symm
  subst hm
  exact ⟨rfl, List.append_cancel_left h⟩

/-- The characters that an operand begins with. -/
def beginsOperand (c : Char) : Bool :=
  c == '"' || c == '\'' || isPlain c

/-- A mark begins with a character that no operand begins with. -/
theorem Mark.exists_text_eq (m : Mark) :
    ∃ c more, m.text = c :: more ∧ beginsOperand c = false := by
  cases m <;> exact ⟨_, _, rfl, by decide⟩

/-- A literal is written as literals are. -/
def Operand.IsWritten (o : Operand) : Prop :=
  ∀ t, o = .literal t → LiteralText t

/-- An operand that some expression shows as is written as a column or a literal. -/
theorem Shows.isWritten {e : Expr} {o : Operand} (h : Shows e o) : o.IsWritten := by
  rintro t rfl
  cases h with
  | literal h => exact literalText h

/-- An operand begins with a character that no mark begins with, so the two kinds of lexemes are
told apart by it. -/
theorem Operand.IsWritten.exists_text_eq {o : Operand} (h : o.IsWritten) :
    ∃ c more, o.text = c :: more ∧ beginsOperand c = true := by
  cases o with
  | field name => exact ⟨_, _, rfl, by decide⟩
  | literal t =>
    cases h t rfl with
    | quoted body => exact ⟨_, _, rfl, by decide⟩
    | plain hne hplain =>
      obtain ⟨c, more, rfl⟩ := List.exists_cons_of_ne_nil hne
      exact ⟨c, more, rfl, by simp [beginsOperand, hplain c (by simp)]⟩

/-- What may follow an operand: nothing, a blank or a closing bracket. -/
def Stops (rest : List Char) : Prop :=
  ∀ c ∈ rest.head?, c = ' ' ∨ c = ')'

/-- A text at which a plain literal stops begins with a blank or a closing parenthesis, and with
nothing else. -/
theorem Stops.head?_ne {c : Char} (h : Stops rest) (hblank : c ≠ ' ') (hclosing : c ≠ ')') :
    rest.head? ≠ some c :=
  fun hc => (h c hc).elim hblank hclosing

/-- No plain character stands before the place at which a plain literal stops. -/
theorem Stops.takeWhile_isPlain (h : Stops rest) : rest.takeWhile isPlain = [] := by
  cases rest with
  | nil => rfl
  | cons c cs =>
    rw [List.takeWhile_cons_of_neg]
    rcases h c rfl with rfl | rfl <;> decide

/-- A number or a truth value ends at the first blank or bracket. -/
theorem plain_append_inj {a b : List Char} (ha : ∀ c ∈ a, isPlain c) (hb : ∀ c ∈ b, isPlain c)
    (hrest : Stops rest) (hrest' : Stops rest') (h : a ++ rest = b ++ rest') :
    a = b ∧ rest = rest' := by
  have hwhile := congrArg (List.takeWhile isPlain) h
  rw [List.takeWhile_append_of_pos ha, List.takeWhile_append_of_pos hb, hrest.takeWhile_isPlain,
    hrest'.takeWhile_isPlain, List.append_nil, List.append_nil] at hwhile
  subst hwhile
  exact ⟨rfl, List.append_cancel_left h⟩

/-- A text that begins with a character which is not plain does not begin with a plain literal. -/
theorem cons_ne_plain_append {c : Char} {b : List Char} (hc : isPlain c = false) (hne : b ≠ [])
    (hb : ∀ d ∈ b, isPlain d) : c :: rest ≠ b ++ rest' := by
  obtain ⟨d, more, rfl⟩ := List.exists_cons_of_ne_nil hne
  intro h
  rw [(List.cons.inj h).1, hb d List.mem_cons_self] at hc
  cases hc

/-- The literal at the front of a text can be read off: a quoted one ends at its closing quote, a
plain one where the plain characters stop. -/
theorem LiteralText.append_inj {a b : List Char} (ha : LiteralText a) (hb : LiteralText b)
    (hrest : Stops rest) (hrest' : Stops rest') (h : a ++ rest = b ++ rest') :
    a = b ∧ rest = rest' := by
  cases ha with
  | quoted body =>
    cases hb with
    | quoted body' =>
      obtain ⟨rfl, hsame⟩ := quoted_append_inj (hrest.head?_ne (by decide) (by decide))
        (hrest'.head?_ne (by decide) (by decide)) h
      exact ⟨rfl, hsame⟩
    | plain hne hplain => exact absurd h (cons_ne_plain_append (by decide) hne hplain)
  | plain hne hplain =>
    cases hb with
    | quoted body' => exact absurd h.symm (cons_ne_plain_append (by decide) hne hplain)
    | plain hne' hplain' => exact plain_append_inj hplain hplain' hrest hrest' h

/-- A quoted identifier is no literal, since the two begin with different quotes. -/
theorem identifier_append_ne {name : String} {t : List Char} (ht : LiteralText t) :
    identifier name ++ rest ≠ t ++ rest' := by
  intro h
  cases ht with
  | quoted body => exact absurd (List.cons.inj h).1 (by decide)
  | plain hne hplain => exact absurd h (cons_ne_plain_append (by decide) hne hplain)

/-- **An operand is read off the text before a blank, a closing bracket or the end.** -/
theorem Operand.text_append_inj {o o' : Operand} (ho : o.IsWritten) (ho' : o'.IsWritten)
    (hrest : Stops rest) (hrest' : Stops rest') (h : o.text ++ rest = o'.text ++ rest') :
    o = o' ∧ rest = rest' := by
  cases o with
  | field name =>
    cases o' with
    | field name' =>
      obtain ⟨hname, hsame⟩ := quoted_append_inj (hrest.head?_ne (by decide) (by decide))
        (hrest'.head?_ne (by decide) (by decide)) h
      exact ⟨congrArg Operand.field (String.toList_injective hname), hsame⟩
    | literal t => exact absurd h (identifier_append_ne (ho' t rfl))
  | literal t =>
    cases o' with
    | field name => exact absurd h.symm (identifier_append_ne (ho t rfl))
    | literal t' =>
      obtain ⟨rfl, hsame⟩ := (ho t rfl).append_inj (ho' t' rfl) hrest hrest' h
      exact ⟨rfl, hsame⟩

/-- Lexemes in a row in which what follows an operand ends it. -/
inductive Spaced : List Lexeme → Prop
  | nil : Spaced []
  | mark (m : Mark) {ls : List Lexeme} (h : Spaced ls) : Spaced (.mark m :: ls)
  | operand {o : Operand} {ls : List Lexeme} (ho : o.IsWritten) (hstops : Stops (text ls))
      (h : Spaced ls) : Spaced (.operand o :: ls)

/-- A plain literal stops at the end of the text. -/
theorem stops_nil : Stops [] := by
  simp [Stops]

/-- It stops at a blank and at a closing parenthesis. -/
theorem stops_of_head {c : Char} {cs : List Char} (h : c = ' ' ∨ c = ')') : Stops (c :: cs) := by
  simpa [Stops] using h

/-- The lexemes of a condition end their operands, with what may follow an operand after them. -/
theorem Lexed.spaced_append {a ls : List Lexeme} (h : Lexed p a) (hls : Spaced ls)
    (hstops : Stops (text ls)) : Spaced (a ++ ls) := by
  induction h generalizing ls with
  | compare comparison hl hr =>
    exact .operand hl.isWritten (stops_of_head (.inl rfl))
      (.mark _ (.operand hr.isWritten hstops hls))
  | isNull h | isNotNull h => exact .operand h.isWritten (stops_of_head (.inl rfl)) (.mark _ hls)
  | both _ _ ihp ihq =>
    rw [List.append_assoc, List.cons_append]
    exact ihp (.mark _ (ihq hls hstops)) (stops_of_head (.inl rfl))
  | either _ _ ihp ihq =>
    rw [List.cons_append, List.append_assoc, List.cons_append, List.append_assoc]
    exact .mark _ (ihp (.mark _ (ihq (.mark _ hls) (stops_of_head (.inr rfl))))
      (stops_of_head (.inl rfl)))
  | negation _ _ ih =>
    rw [List.cons_append, List.append_assoc]
    exact .mark _ (ih (.mark _ hls) (stops_of_head (.inr rfl)))
  | always => exact .mark _ hls
  | never => exact .mark _ hls

/-- Lexemes with the empty text are none at all. -/
theorem Spaced.eq_nil {a : List Lexeme} (ha : Spaced a) (h : text a = []) : a = [] := by
  cases ha with
  | nil => rfl
  | mark m _ =>
    obtain ⟨c, more, hm, -⟩ := m.exists_text_eq
    rw [text_cons, Lexeme.text, hm] at h
    cases h
  | operand ho _ _ =>
    obtain ⟨c, more, ho, -⟩ := ho.exists_text_eq
    rw [text_cons, Lexeme.text, ho] at h
    cases h

/-- No operand begins like a mark. -/
theorem Operand.IsWritten.text_append_ne {o : Operand} (ho : o.IsWritten) (m : Mark) :
    o.text ++ rest ≠ m.text ++ rest' := by
  obtain ⟨c, more, hc, hbegins⟩ := ho.exists_text_eq
  obtain ⟨d, more', hd, hnot⟩ := m.exists_text_eq
  intro h
  rw [hc, hd] at h
  obtain rfl := (List.cons.inj h).1
  rw [hbegins] at hnot
  cases hnot

/-- **A text is cut into lexemes in one way only.** -/
theorem text_injective {a b : List Lexeme} (ha : Spaced a) (hb : Spaced b)
    (h : text a = text b) : a = b := by
  induction ha generalizing b with
  | nil => exact (hb.eq_nil h.symm).symm
  | mark m hls ih =>
    cases hb with
    | nil => exact (Spaced.mark m hls).eq_nil h
    | mark m' hls' =>
      obtain ⟨rfl, hmore⟩ := Mark.text_append_inj h
      rw [ih hls' hmore]
    | operand ho _ _ => exact absurd h.symm (ho.text_append_ne m)
  | operand ho hstops hls ih =>
    cases hb with
    | nil => exact (Spaced.operand ho hstops hls).eq_nil h
    | mark m _ => exact absurd h (ho.text_append_ne m)
    | operand ho' hstops' hls' =>
      obtain ⟨rfl, hmore⟩ := Operand.text_append_inj ho ho' hstops hstops' h
      rw [ih hls' hmore]

/-- **The lexemes of a rendered predicate stand apart.** Behind each operand comes a mark or the
end, by induction on how the predicate is lexed. -/
theorem Lexed.spaced {a : List Lexeme} (h : Lexed p a) : Spaced a := by
  simpa using h.spaced_append .nil stops_nil

/-- Conditions of one text have the same lexemes. -/
theorem Lexed.eq_of_text_eq {q : Predicate} {a b : List Lexeme} (hp : Lexed p a) (hq : Lexed q b)
    (h : text a = text b) : a = b :=
  text_injective hp.spaced hq.spaced h

end Sql
end Paging
