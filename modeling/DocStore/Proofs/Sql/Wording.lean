import DocStore.Proofs.Json.Numeral
import DocStore.Proofs.Sql.Shape
import DocStore.Proofs.Text.Occurrence

/-!
# Words of listings

Every step of building a listing adds at most one clause (`Listing.build_eq`), and all that
clauses are written with, apart from placeholders, are the words of a fixed vocabulary
(`Clause.Plain.spelled`).  Expressions and clauses close the parentheses that they open
(`Clause.Plain.closed`), and `WHERE` opens the first restriction and is found nowhere else
(`Listing.occurrences_clausePieces`).
-/

namespace DocStore
namespace Sql

open Text (nest foldl_nest_of_flat occurrences occurrences_cons occurrences_append_cons
  occurrences_append_of_not_mem)

/-! ## Parentheses -/

/-- The depth of parentheses behind a piece. -/
def Piece.nest (depth : Option Nat) : Piece → Option Nat
  | .text chars => chars.toList.foldl Text.nest depth
  | .value _ => depth

/-- A placeholder is a dollar sign and digits. -/
theorem eq_or_isDigit_of_mem_placeholder {number : Nat} {c : Char}
    (member : c ∈ placeholder number) : c = '$' ∨ c.isDigit = true :=
  (List.mem_cons.1 member).imp_right Json.Reader.isDigit_of_mem_showNat

theorem not_mem_placeholder {c : Char} (noDollar : c ≠ '$') (noDigit : c.isDigit = false)
    (number : Nat) : c ∉ placeholder number := by
  intro member
  rcases eq_or_isDigit_of_mem_placeholder member with dollar | digit
  · exact noDollar dollar
  · rw [noDigit] at digit
    cases digit

/-- Placeholders have no parentheses. -/
theorem foldl_nest_numberedChars (number : Nat) (pieces : List Piece) (depth : Option Nat) :
    (numberedChars number pieces).foldl nest depth = pieces.foldl Piece.nest depth := by
  induction pieces generalizing number depth with
  | nil => rfl
  | cons piece rest ih =>
    cases piece with
    | text chars => rw [numberedChars, List.foldl_append, ih, List.foldl_cons, Piece.nest]
    | value bound =>
      have noOpening : '(' ∉ placeholder number :=
        not_mem_placeholder (by decide) (by decide) number
      have noClosing : ')' ∉ placeholder number :=
        not_mem_placeholder (by decide) (by decide) number
      rw [numberedChars, List.foldl_append, foldl_nest_of_flat noOpening noClosing, ih,
        List.foldl_cons, Piece.nest]

/-- Pieces that close the parentheses that they open, and no others. -/
def Closed (pieces : List Piece) : Prop :=
  ∀ depth, pieces.foldl Piece.nest (some depth) = some depth

namespace Closed

variable {piece opening closing : Piece} {pieces more : List Piece}

theorem nil : Closed [] := fun _ => rfl

theorem cons (closed : Closed pieces) (flat : ∀ depth, Piece.nest (some depth) piece = some depth) :
    Closed (piece :: pieces) := by
  intro depth
  rw [List.foldl_cons, flat]
  exact closed depth

theorem append (closed : Closed pieces) (further : Closed more) : Closed (pieces ++ more) := by
  intro depth
  rw [List.foldl_append, closed]
  exact further depth

/-- Between parentheses and those that close them. -/
theorem wrap (closed : Closed pieces) (rise : Nat)
    (opens : ∀ depth, Piece.nest (some depth) opening = some (depth + rise))
    (closes : ∀ depth, Piece.nest (some (depth + rise)) closing = some depth) :
    Closed (opening :: pieces ++ [closing]) := by
  intro depth
  rw [List.cons_append, List.foldl_cons, opens, List.foldl_append, closed]
  exact closes depth

end Closed

/-! ## The vocabulary -/

/-- The columns that listings name. -/
def columnWords : List String :=
  ["path", "deleted", "data", Document.idField, Document.modifiedField]

/-- The words that listings are written with, besides the one that opens the first
restriction. -/
def vocabulary : List String :=
  columnWords ++
    ["TRUE", "FALSE", "'", "array", "'null'::jsonb", "->", "->>", "NULLIF(", ", ", ")",
      "jsonb_typeof(", "(SELECT array_agg(elems) FROM jsonb_array_elements(", ") elems)", " ",
      "=", "!=", "<", ">", "<=", ">=", "LIKE", "NOT LIKE", "ILIKE", "@>", "&&", " IN (",
      " NOT IN (", " ANY(", " IS NULL", " IS NOT NULL", "NOT ", " AND ", " OR ", "(", "( ", " )",
      " ORDER BY ", " DESC", " ASC", " LIMIT "]

/-- A piece that is a value or a word of the vocabulary. -/
def Piece.Spelled : Piece → Prop
  | .text chars => chars ∈ vocabulary
  | .value _ => True

instance : DecidablePred Piece.Spelled := fun piece =>
  match piece with
  | .text chars => inferInstanceAs (Decidable (chars ∈ vocabulary))
  | .value _ => inferInstanceAs (Decidable True)

/-- No word of the vocabulary has a dollar sign, is taken for the rest of a number or has the
first letter of `WHERE`. -/
theorem apart_of_mem_vocabulary {word : String} (member : word ∈ vocabulary) :
    '$' ∉ word.toList ∧ word.toList.head?.map Char.isDigit = some false ∧ 'W' ∉ word.toList := by
  have all : ∀ word ∈ vocabulary, '$' ∉ word.toList ∧
      word.toList.head?.map Char.isDigit = some false ∧ 'W' ∉ word.toList := by decide
  exact all word member

/-! ## Expressions -/

theorem spelled_valuePieces (values : List Value) :
    ∀ piece ∈ valuePieces values, piece.Spelled := by
  induction values with
  | nil => exact List.forall_mem_nil _
  | cons value rest ih =>
    cases rest with
    | nil =>
      rw [valuePieces, List.forall_mem_singleton]
      exact trivial
    | cons next later =>
      rw [valuePieces, List.forall_mem_cons, List.forall_mem_cons]
      · exact ⟨trivial, by decide, ih⟩
      · exact List.cons_ne_nil next later

theorem closed_valuePieces (values : List Value) : Closed (valuePieces values) := by
  induction values with
  | nil => exact .nil
  | cons value rest ih =>
    cases rest with
    | nil => exact fun depth => rfl
    | cons next later => exact (ih.cons fun depth => rfl).cons fun depth => rfl

namespace Expr

/-- An expression of the kind that listings restrict and order rows by: it names columns of the
table alone. -/
def Plain : Expr → Prop
  | column name => name ∈ columnWords
  | bound _ | truth _ | jsonNull => True
  | word text => text = "array"
  | member value _ | memberText value _ | jsonType value | jsonItems value | oneOf _ value _
  | anyOf _ value _ | isNull value | isNotNull value | not value | paren value | group value =>
    value.Plain
  | nullIf left right | compare _ left right | and left right | or left right =>
    left.Plain ∧ right.Plain
  | columnOf _ _ | number _ | greatest _ _ | plus _ _ | rowCount | countOf _ => False

/-- A plain expression is written with words of the vocabulary and values. -/
theorem Plain.spelled {expr : Expr} (plain : expr.Plain) :
    ∀ piece ∈ expr.pieces, piece.Spelled := by
  have blank : (Piece.text " ").Spelled := by decide
  induction expr with
  | column name =>
    rw [pieces, List.forall_mem_singleton]
    exact List.mem_append_left _ plain
  | word text =>
    cases plain
    decide
  | truth value => cases value <;> decide
  | jsonNull => decide
  | bound value =>
    rw [pieces, List.forall_mem_singleton]
    exact trivial
  | member object name ih | memberText object name ih =>
    rw [pieces, List.forall_mem_append, List.forall_mem_cons, List.forall_mem_singleton]
    exact ⟨ih plain, by decide, trivial⟩
  | nullIf left right ihLeft ihRight =>
    simp only [pieces, List.forall_mem_append, List.forall_mem_cons]
    exact ⟨⟨⟨by decide, ihLeft plain.1⟩, by decide, ihRight plain.2⟩, by decide⟩
  | and left right ihLeft ihRight | or left right ihLeft ihRight =>
    rw [pieces, List.forall_mem_append, List.forall_mem_cons]
    exact ⟨ihLeft plain.1, by decide, ihRight plain.2⟩
  | compare comparison left right ihLeft ihRight =>
    simp only [pieces, List.forall_mem_append, List.forall_mem_cons]
    exact ⟨ihLeft plain.1, blank, by cases comparison <;> decide, blank, ihRight plain.2⟩
  | jsonType value ih | jsonItems value ih | paren value ih | group value ih =>
    simp only [pieces, List.forall_mem_append, List.forall_mem_cons]
    exact ⟨⟨by decide, ih plain⟩, by decide⟩
  | not value ih =>
    rw [pieces, List.forall_mem_cons]
    exact ⟨by decide, ih plain⟩
  | isNull value ih | isNotNull value ih =>
    rw [pieces, List.forall_mem_append, List.forall_mem_singleton]
    exact ⟨ih plain, by decide⟩
  | oneOf negated value values ih =>
    simp only [pieces, List.forall_mem_append, List.forall_mem_cons]
    exact ⟨⟨ih plain, by cases negated <;> decide, spelled_valuePieces values⟩, by decide⟩
  | anyOf comparison value array ih =>
    simp only [pieces, List.forall_mem_append, List.forall_mem_cons]
    exact ⟨ih plain, blank, by cases comparison <;> decide, by decide, trivial, by decide⟩
  | columnOf _ _ | number _ | greatest _ _ | plus _ _ | rowCount | countOf _ => cases plain

/-- A plain expression closes the parentheses that it opens. -/
theorem Plain.closed {expr : Expr} (plain : expr.Plain) : Closed expr.pieces := by
  induction expr with
  | column name =>
    have flat : ∀ word ∈ columnWords, '(' ∉ word.toList ∧ ')' ∉ word.toList := by decide
    obtain ⟨noOpening, noClosing⟩ := flat name plain
    exact Closed.nil.cons fun depth => foldl_nest_of_flat noOpening noClosing (some depth)
  | word text =>
    cases plain
    exact fun depth => rfl
  | truth value => cases value <;> exact fun depth => rfl
  | jsonNull | bound value => exact fun depth => rfl
  | member object name ih | memberText object name ih =>
    exact (ih plain).append fun depth => rfl
  | nullIf left right ihLeft ihRight =>
    have inner : Closed (left.pieces ++ .text ", " :: right.pieces) :=
      (ihLeft plain.1).append ((ihRight plain.2).cons fun depth => rfl)
    exact inner.wrap 1 (fun depth => rfl) fun depth => rfl
  | and left right ihLeft ihRight | or left right ihLeft ihRight =>
    exact (ihLeft plain.1).append ((ihRight plain.2).cons fun depth => rfl)
  | compare comparison left right ihLeft ihRight =>
    have symbol : ∀ depth, Piece.nest (some depth) (.text comparison.symbol) = some depth := by
      cases comparison <;> exact fun depth => rfl
    exact (ihLeft plain.1).append
      ((((ihRight plain.2).cons fun depth => rfl).cons symbol).cons fun depth => rfl)
  | jsonType value ih | paren value ih | group value ih =>
    exact (ih plain).wrap 1 (fun depth => rfl) fun depth => rfl
  | jsonItems value ih =>
    -- The words before the value open two more parentheses than they close.
    exact (ih plain).wrap 2 (fun depth => rfl) fun depth => rfl
  | not value ih => exact (ih plain).cons fun depth => rfl
  | isNull value ih | isNotNull value ih => exact (ih plain).append fun depth => rfl
  | oneOf negated value values ih =>
    rw [pieces, List.append_assoc]
    refine (ih plain).append ((closed_valuePieces values).wrap 1 ?_ fun depth => rfl)
    cases negated <;> exact fun depth => rfl
  | anyOf comparison value array ih =>
    refine (ih plain).append ?_
    cases comparison <;> exact fun depth => rfl
  | columnOf _ _ | number _ | greatest _ _ | plus _ _ | rowCount | countOf _ => cases plain

end Expr

/-! ## Clauses -/

namespace Clause

/-- Whether a clause is a restriction. -/
def restricts : Clause → Bool
  | restrict _ => true
  | order _ _ | limit _ => false

/-- The word that opens a clause; `restricted` tells whether a restriction stands before. -/
def opening (restricted : Bool) : Clause → String
  | restrict _ => if restricted then " AND " else " WHERE "
  | order _ _ => " ORDER BY "
  | limit _ => " LIMIT "

/-- What a clause is written with behind the word that opens it. -/
def content : Clause → List Piece
  | restrict condition => condition.pieces
  | order first rest => Listing.keyPieces first ++ Listing.furtherKeys rest
  | limit count => [.value (.int8 count)]

/-- A clause of plain expressions. -/
def Plain : Clause → Prop
  | restrict condition => condition.Plain
  | order first rest => ∀ key ∈ first :: rest, key.1.Plain
  | limit _ => True

end Clause

namespace Listing

theorem spelled_keyPieces {key : Expr × Bool} (plain : key.1.Plain) :
    ∀ piece ∈ keyPieces key, piece.Spelled := by
  rw [keyPieces, List.forall_mem_append]
  exact ⟨plain.spelled, by cases key.2 <;> decide⟩

theorem closed_keyPieces {key : Expr × Bool} (plain : key.1.Plain) : Closed (keyPieces key) := by
  refine plain.closed.append ?_
  cases key.2 <;> exact fun depth => rfl

theorem spelled_furtherKeys {keys : List (Expr × Bool)} (plain : ∀ key ∈ keys, key.1.Plain) :
    ∀ piece ∈ furtherKeys keys, piece.Spelled := by
  intro piece member
  obtain ⟨key, among, written⟩ := List.mem_flatMap.1 member
  rcases List.mem_cons.1 written with rfl | inKey
  · decide
  · exact spelled_keyPieces (plain key among) piece inKey

theorem closed_furtherKeys {keys : List (Expr × Bool)} (plain : ∀ key ∈ keys, key.1.Plain) :
    Closed (furtherKeys keys) := by
  induction keys with
  | nil => exact .nil
  | cons key rest ih =>
    obtain ⟨first, later⟩ := List.forall_mem_cons.1 plain
    exact ((closed_keyPieces first).cons fun depth => rfl).append (ih later)

end Listing

namespace Clause

variable {clause : Clause}

/-- A plain clause is written with words of the vocabulary and values. -/
theorem Plain.spelled (plain : clause.Plain) : ∀ piece ∈ clause.content, piece.Spelled := by
  cases clause with
  | restrict condition => exact Expr.Plain.spelled plain
  | order first rest =>
    obtain ⟨head, later⟩ := List.forall_mem_cons.1 plain
    exact List.forall_mem_append.2
      ⟨Listing.spelled_keyPieces head, Listing.spelled_furtherKeys later⟩
  | limit count =>
    rw [content, List.forall_mem_singleton]
    exact trivial

/-- A plain clause closes the parentheses that it opens. -/
theorem Plain.closed (plain : clause.Plain) : Closed clause.content := by
  cases clause with
  | restrict condition => exact Expr.Plain.closed plain
  | order first rest =>
    obtain ⟨head, later⟩ := List.forall_mem_cons.1 plain
    exact (Listing.closed_keyPieces head).append (Listing.closed_furtherKeys later)
  | limit count => exact fun depth => rfl

/-- The words that open clauses. -/
def openings : List String := [" WHERE ", " AND ", " ORDER BY ", " LIMIT "]

theorem opening_mem (clause : Clause) (restricted : Bool) :
    clause.opening restricted ∈ openings := by
  cases clause <;> cases restricted <;> simp [opening, openings]

theorem nest_opening (clause : Clause) (restricted : Bool) (depth : Nat) :
    Piece.nest (some depth) (.text (clause.opening restricted)) = some depth := by
  have flat : ∀ word ∈ openings, '(' ∉ word.toList ∧ ')' ∉ word.toList := by decide
  obtain ⟨noOpening, noClosing⟩ := flat _ (clause.opening_mem restricted)
  exact foldl_nest_of_flat noOpening noClosing (some depth)

end Clause

namespace Listing

/-- A clause is the word that opens it and its content. -/
theorem clausePieces_cons (restricted : Bool) (clause : Clause) (rest : List Clause) :
    clausePieces restricted (clause :: rest) =
      .text (clause.opening restricted) :: clause.content ++
        clausePieces (restricted || clause.restricts) rest := by
  cases clause <;> simp [clausePieces, Clause.opening, Clause.content, Clause.restricts]

theorem closed_clausePieces {clauses : List Clause} (plain : ∀ clause ∈ clauses, clause.Plain)
    (restricted : Bool) : Closed (clausePieces restricted clauses) := by
  induction clauses generalizing restricted with
  | nil => exact .nil
  | cons clause rest ih =>
    obtain ⟨first, later⟩ := List.forall_mem_cons.1 plain
    rw [clausePieces_cons]
    exact (first.closed.cons (clause.nest_opening restricted)).append (ih later _)

/-- The word that opens the first restriction. -/
def whereWord : List Char := "WHERE".toList

/-- No other word of a listing has the first letter of `WHERE`. -/
theorem not_mem_numberedChars {pieces : List Piece} (spelled : ∀ piece ∈ pieces, piece.Spelled)
    (number : Nat) : 'W' ∉ numberedChars number pieces := by
  induction pieces generalizing number with
  | nil => exact List.not_mem_nil
  | cons piece rest ih =>
    obtain ⟨first, later⟩ := List.forall_mem_cons.1 spelled
    cases piece with
    | text chars =>
      rw [numberedChars, List.mem_append, not_or]
      exact ⟨(apart_of_mem_vocabulary first).2.2, ih later number⟩
    | value bound =>
      rw [numberedChars, List.mem_append, not_or]
      exact ⟨not_mem_placeholder (by decide) (by decide) number, ih later (number + 1)⟩

/-- The text of pieces goes on behind the text of the pieces before. -/
theorem numberedChars_append (number : Nat) (pieces more : List Piece) :
    numberedChars number (pieces ++ more) = numberedChars number pieces ++
      numberedChars (number + (boundValues pieces).length) more := by
  induction pieces generalizing number with
  | nil => rfl
  | cons piece rest ih =>
    cases piece with
    | text chars =>
      rw [List.cons_append, numberedChars, ih, numberedChars, List.append_assoc]
      rfl
    | value bound =>
      have count : (boundValues (.value bound :: rest)).length = (boundValues rest).length + 1 :=
        rfl
      rw [List.cons_append, numberedChars, ih, numberedChars, List.append_assoc, count,
        Nat.add_right_comm, Nat.add_assoc]

/-- The word that opens the first restriction is the one that counts. -/
theorem occurrences_opening (clause : Clause) (restricted : Bool) (chars : List Char) :
    occurrences whereWord ((clause.opening restricted).toList ++ chars) =
      (if !restricted && clause.restricts then 1 else 0) + occurrences whereWord chars := by
  by_cases first : (!restricted && clause.restricts) = true
  · have word : clause.opening restricted = " WHERE " := by
      cases clause <;> cases restricted <;> simp_all [Clause.opening, Clause.restricts]
    have behind : occurrences whereWord ("HERE ".toList ++ chars) = occurrences whereWord chars :=
      occurrences_append_of_not_mem (by decide) _ chars
    have found : whereWord.isPrefixOf ('W' :: ("HERE ".toList ++ chars)) = true := rfl
    calc occurrences whereWord ((clause.opening restricted).toList ++ chars)
        = occurrences whereWord ([' '] ++ 'W' :: ("HERE ".toList ++ chars)) := by rw [word]; rfl
      _ = occurrences whereWord ('W' :: ("HERE ".toList ++ chars)) :=
        occurrences_append_of_not_mem (by decide) _ _
      _ = 1 + occurrences whereWord chars := by
        rw [occurrences_cons, behind, if_pos found, Nat.add_comm]
      _ = _ := by rw [if_pos first]
  · have absent : 'W' ∉ (clause.opening restricted).toList := by
      have others : ∀ word ∈ [" AND ", " ORDER BY ", " LIMIT "], 'W' ∉ word.toList := by decide
      apply others
      cases clause <;> cases restricted <;> simp_all [Clause.opening, Clause.restricts]
    rw [if_neg first, Nat.zero_add]
    exact occurrences_append_of_not_mem absent _ chars

/-- The first restriction among clauses opens the `WHERE`, if none stands before. -/
theorem occurrences_clausePieces {clauses : List Clause}
    (plain : ∀ clause ∈ clauses, clause.Plain) (number : Nat) (restricted : Bool) :
    occurrences whereWord (numberedChars number (clausePieces restricted clauses)) =
      if !restricted && clauses.any Clause.restricts then 1 else 0 := by
  induction clauses generalizing number restricted with
  | nil => cases restricted <;> rfl
  | cons clause rest ih =>
    obtain ⟨first, later⟩ := List.forall_mem_cons.1 plain
    have within (number : Nat) (chars : List Char) :
        occurrences whereWord (numberedChars number clause.content ++ chars) =
          occurrences whereWord chars :=
      occurrences_append_of_not_mem (not_mem_numberedChars first.spelled number) _ chars
    have parts : occurrences whereWord (numberedChars number (clausePieces restricted
        (clause :: rest))) = (if !restricted && clause.restricts then 1 else 0) +
          if !(restricted || clause.restricts) && rest.any Clause.restricts then 1 else 0 := by
      rw [clausePieces_cons, List.cons_append, numberedChars, numberedChars_append,
        occurrences_opening, within, ih later]
    rw [parts, List.any_cons]
    cases restricted <;> cases clause.restricts <;> simp

/-- No `WHERE` reaches from the head into the clauses. -/
theorem occurrences_behind {clauses : List Clause} (plain : ∀ clause ∈ clauses, clause.Plain)
    (head : List Char) :
    occurrences whereWord (head ++ numberedChars 1 (clausePieces false clauses)) =
      occurrences whereWord head + if clauses.any Clause.restricts then 1 else 0 := by
  have inside := occurrences_clausePieces plain 1 false
  rw [Bool.not_false, Bool.true_and] at inside
  rw [← inside]
  cases clauses with
  | nil => rw [clausePieces, numberedChars, List.append_nil]; rfl
  | cons clause rest =>
    have blank : ∀ word ∈ Clause.openings, word.toList.head? = some ' ' := by decide
    obtain ⟨more, opens⟩ := List.head?_eq_some_iff.1 (blank _ (clause.opening_mem false))
    rw [clausePieces_cons, List.cons_append, numberedChars, opens, List.cons_append]
    exact occurrences_append_cons (by decide) head _

/-! ## Building a listing -/

/-- The clause that a step adds. -/
def Step.clause? : Step → Option Clause
  | .collection name => some (.restrict (.columnIs "path" name))
  | .inclusion .live => some (.restrict (.not (.column "deleted")))
  | .inclusion .all => none
  | .condition filters => (conditionExpr? filters).map .restrict
  | .alternatives conditions => (alternativesExpr? conditions).map .restrict
  | .order [] => none
  | .order (key :: rest) => some (.order (orderKey key) (rest.map orderKey))
  | .limit count => if count = 0 then none else some (.limit (Number.Extended.clampInt64 count))

/-- A step adds its clause, if it has one, and changes nothing else. -/
theorem apply_eq (listing : Listing) (step : Step) :
    listing.apply step = ⟨listing.head, listing.clauses ++ step.clause?.toList⟩ := by
  have unchanged : listing = ⟨listing.head, listing.clauses ++ []⟩ := by rw [List.append_nil]
  have restricted (condition : Option Expr) : listing.restrict condition =
      ⟨listing.head, listing.clauses ++ (condition.map Clause.restrict).toList⟩ := by
    cases condition with
    | none => exact unchanged
    | some expr => rfl
  cases step with
  | collection name => rfl
  | inclusion shows =>
    cases shows with
    | live => rfl
    | all => exact unchanged
  | condition filters => exact restricted (conditionExpr? filters)
  | alternatives conditions => exact restricted (alternativesExpr? conditions)
  | order keys =>
    cases keys with
    | nil => exact unchanged
    | cons key rest => rfl
  | limit count =>
    simp only [apply, limitedTo, Step.clause?]
    split
    · exact unchanged
    · rfl

/-- A listing has its head and the clauses of its steps, in order. -/
theorem build_eq (head : String) (steps : List Step) :
    build head steps = ⟨head, steps.filterMap Step.clause?⟩ := by
  have further (listing : Listing) : steps.foldl apply listing =
      ⟨listing.head, listing.clauses ++ steps.filterMap Step.clause?⟩ := by
    induction steps generalizing listing with
    | nil => rw [List.filterMap_nil, List.append_nil, List.foldl_nil]
    | cons step rest ih =>
      rw [List.foldl_cons, ih, apply_eq, List.append_assoc]
      cases added : step.clause? with
      | none => rw [List.filterMap_cons_none added]; rfl
      | some clause => rw [List.filterMap_cons_some added]; rfl
  exact further (start head)

end Listing

/-! ## Steps are plain -/

theorem plain_column {field : String} (column : Filter.isColumn field = true) :
    (Expr.column field).Plain := by
  rcases Bool.or_eq_true_iff.1 column with onIds | onEpochs
  · rw [eq_of_beq onIds]
    exact (by decide : Document.idField ∈ columnWords)
  · rw [eq_of_beq onEpochs]
    exact (by decide : Document.modifiedField ∈ columnWords)

theorem plain_followPath {last : Expr → String → Expr}
    (step : ∀ {object : Expr} (name : String), object.Plain → (last object name).Plain)
    {object : Expr} (plain : object.Plain) (names : List String) :
    (followPath last object names).Plain := by
  induction names generalizing object with
  | nil => exact plain
  | cons name rest ih =>
    cases rest with
    | nil => exact step name plain
    | cons next later => exact @ih (.member object name) plain

theorem plain_dataColumn : dataColumn.Plain := (by decide : "data" ∈ columnWords)

theorem plain_jsonField (field : String) : (jsonField field).Plain :=
  @plain_followPath Expr.member (fun _ plain => plain) _ plain_dataColumn _

theorem plain_textField (field : String) : (textField field).Plain :=
  @plain_followPath Expr.memberText (fun _ plain => plain) _ plain_dataColumn _

theorem plain_rankedField (field : String) : (rankedField field).Plain :=
  ⟨plain_jsonField field, trivial⟩

theorem plain_filterField (filter : Filter) : (filterField filter).Plain := by
  unfold filterField
  split
  · exact plain_column ‹_›
  · cases filter.operator
    case like => exact plain_textField filter.field
    case present | contains | containsAny => exact plain_jsonField filter.field
    all_goals exact plain_rankedField filter.field

theorem plain_settled (filter : Filter) {comparison : Expr} (plain : comparison.Plain)
    (required : Bool) : (settled filter comparison required).Plain := by
  unfold settled
  split
  · exact plain
  · split <;> exact ⟨plain, plain_filterField filter⟩

theorem plain_filterExpr (filter : Filter) : (filterExpr filter).Plain := by
  have field := plain_filterField filter
  unfold filterExpr
  split
  · exact trivial
  · exact field
  · exact field
  · apply plain_settled
    unfold bareComparison
    split
    · exact ⟨⟨field, rfl⟩, field, trivial⟩
    · exact ⟨field, trivial⟩
  · apply plain_settled
    exact field

/-- Joining plain expressions one after the other keeps them plain. -/
theorem plain_joined {join : Expr → List Expr → Expr} (single : ∀ first, join first [] = first)
    (more : ∀ first next rest, first.Plain → (join next rest).Plain →
      (join first (next :: rest)).Plain) {first : Expr} {rest : List Expr}
    (plain : ∀ expr ∈ first :: rest, expr.Plain) : (join first rest).Plain := by
  induction rest generalizing first with
  | nil =>
    rw [single]
    exact plain first List.mem_cons_self
  | cons next later ih =>
    obtain ⟨head, others⟩ := List.forall_mem_cons.1 plain
    exact more first next later head (ih others)

theorem plain_conditionExpr? {condition : Condition} {expr : Expr}
    (written : conditionExpr? condition = some expr) : expr.Plain := by
  cases condition with
  | nil => cases written
  | cons filter rest =>
    cases written
    refine @plain_joined Expr.all (fun _ => rfl) (fun _ _ _ => And.intro) _ _ ?_
    refine List.forall_mem_cons.2 ⟨plain_filterExpr filter, ?_⟩
    exact List.forall_mem_map.2 fun other _ => plain_filterExpr other

/-- Conditions are joined if one of them is written. -/
theorem alternativesExpr?_cases (alternatives : List Condition) :
    (alternatives.filterMap conditionExpr? = [] ∧ alternativesExpr? alternatives = none) ∨
      ∃ first rest, alternatives.filterMap conditionExpr? = first :: rest ∧
        alternativesExpr? alternatives = some (.group (Expr.any first rest)) := by
  unfold alternativesExpr?
  generalize alternatives.filterMap conditionExpr? = exprs
  cases exprs with
  | nil => exact .inl ⟨rfl, rfl⟩
  | cons first rest => exact .inr ⟨first, rest, rfl, rfl⟩

theorem isSome_conditionExpr? (condition : Condition) :
    (conditionExpr? condition).isSome = !condition.isEmpty := by
  cases condition <;> rfl

theorem isSome_alternativesExpr? (alternatives : List Condition) :
    (alternativesExpr? alternatives).isSome = alternatives.any (!·.isEmpty) := by
  simp only [← isSome_conditionExpr?]
  rcases alternativesExpr?_cases alternatives with ⟨none, nothing⟩ | ⟨first, rest, some, joined⟩
  · rw [nothing, Option.isSome_none, eq_comm, List.any_eq_false]
    intro condition member
    rw [List.filterMap_eq_nil_iff.1 none condition member]
    exact Bool.false_ne_true
  · have member : first ∈ alternatives.filterMap conditionExpr? := by
      rw [some]
      exact List.mem_cons_self
    obtain ⟨condition, among, found⟩ := List.mem_filterMap.1 member
    rw [joined, Option.isSome_some, eq_comm, List.any_eq_true]
    exact ⟨condition, among, Option.isSome_of_mem found⟩

theorem plain_alternativesExpr? {alternatives : List Condition} {expr : Expr}
    (written : alternativesExpr? alternatives = some expr) : expr.Plain := by
  have each : ∀ expr ∈ alternatives.filterMap conditionExpr?, expr.Plain := by
    intro expr member
    obtain ⟨condition, -, found⟩ := List.mem_filterMap.1 member
    exact plain_conditionExpr? found
  rcases alternativesExpr?_cases alternatives with ⟨-, nothing⟩ | ⟨first, rest, conditions, joined⟩
  · rw [nothing] at written
    cases written
  · rw [joined] at written
    cases written
    rw [conditions] at each
    exact @plain_joined Expr.any (fun _ => rfl) (fun _ _ _ => And.intro) _ _ each

namespace Listing

theorem plain_orderKey (key : SortKey) : (orderKey key).1.Plain := by
  unfold orderKey
  split
  · exact plain_column ‹_›
  · exact plain_rankedField key.field

/-- Whatever a step carries, its clause is plain. -/
theorem Step.plain {step : Step} {clause : Clause} (added : step.clause? = some clause) :
    clause.Plain := by
  cases step with
  | collection name =>
    cases added
    exact ⟨(by decide : "path" ∈ columnWords), trivial⟩
  | inclusion shows =>
    cases shows with
    | live =>
      cases added
      exact (by decide : "deleted" ∈ columnWords)
    | all => cases added
  | condition filters =>
    obtain ⟨expr, written, rfl⟩ := Option.map_eq_some_iff.1 added
    exact plain_conditionExpr? written
  | alternatives conditions =>
    obtain ⟨expr, written, rfl⟩ := Option.map_eq_some_iff.1 added
    exact plain_alternativesExpr? written
  | order keys =>
    cases keys with
    | nil => cases added
    | cons key rest =>
      cases added
      refine List.forall_mem_cons.2 ⟨plain_orderKey key, ?_⟩
      exact List.forall_mem_map.2 fun other _ => plain_orderKey other
  | limit count =>
    simp only [clause?, Option.ite_none_left_eq_some] at added
    cases added.2
    exact trivial

end Listing
end Sql
end DocStore
