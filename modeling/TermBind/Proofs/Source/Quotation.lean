import TermBind.Artifact
import TermBind.Proofs.Text.Quoted
import TermBind.Source.File

/-! Quotations as source text: each is one literal to the lexer, and a list of them is read as the
arguments that they stand for. -/
namespace TermBind.Source

open Quoted Grammar

/-- A quotation is taken as it is written. -/
theorem Quotation.taken_body? {kind : StringKind} {mode : Mode} {taken decoded text : List Char}
    {read : Taken × List Char} (found : body? kind mode taken decoded text = some read) :
    read.1.1.reverse ++ read.1.2 = taken.reverse ++ text := by
  induction text generalizing mode taken decoded with
  | nil => cases found
  | cons c rest ih =>
    rw [body?] at found
    split at found
    · cases found
    · cases found
      simp
    · rw [ih found]
      simp

theorem two_le_length_encode (value : String) : 2 ≤ (encode value).toList.length := by
  simp [toList_encode]

/-- What follows a literal and does not belong to it. -/
def IsApart (rest : List Char) : Prop := ∀ c ∈ rest.head?, isIdentifierStart c = false

theorem suffix_of_isApart {taken rest : List Char} (apart : IsApart rest) :
    suffix (taken, rest) = (taken, rest) := by
  cases rest with
  | nil => rfl
  | cons c rest =>
    have own : isIdentifierStart c = false := apart c rfl
    rw [suffix, plainIdentifier?, own]
    rfl

theorem isApart_nil : IsApart [] := by
  intro c found
  cases found

theorem literal?_of_body? {text : List Char} {read : Taken × List Char}
    (found : Quotation.body? .text .plain ['"'] [] text = some read) :
    literal? ('"' :: text) = some (suffix read.1) := by
  change ((Quotation.body? .text .plain ['"'] [] text).map fun read => suffix read.1).or _ = _
  rw [found]
  rfl

/-- A quotation is one literal to its last character. -/
theorem literal?_encode (value : String) {rest : List Char} (apart : IsApart rest) :
    literal? ((encode value).toList ++ rest) = some ((encode value).toList.reverse, rest) := by
  obtain ⟨taken, found⟩ := Quotation.body?_encode value.toList ['"'] [] rest
  have whole := Quotation.taken_body? found
  have spelled : (encode value).toList ++ rest = '"' :: (value.toList.flatMap escape ++ '"' :: rest) := by
    simp [toList_encode]
  have taken_eq : taken = (encode value).toList.reverse := by
    rw [← List.reverse_eq_iff]
    exact List.append_cancel_right (whole.trans spelled.symm)
  rw [spelled, literal?_of_body? found, suffix_of_isApart apart, taken_eq]

theorem ofText_encode (value : String) : Literal.ofText (encode value) = .string value := by
  obtain ⟨taken, found⟩ := Quotation.body?_encode value.toList [] [] []
  rw [Literal.ofText, toList_encode]
  simp [found]

namespace Lexer

variable {fuel : Nat} {read : List Lexeme} {place : Position}

/-- A token is read after the blanks in front of it. -/
theorem lexemesFrom_leaf {blanks text after taken rest : List Char} {c : Char} {tree : Tree}
    (skipped : skip (fuel + 1) [] text = (blanks.reverse, c :: after))
    (undocumented : docComment? (c :: after) = none)
    (unopened : Delimiter.ofOpening? c = none) (unclosed : Delimiter.ofClosing? c = none)
    (found : leaf? (place.afterAll blanks) (c :: after) = some (tree, taken.reverse, rest)) :
    lexemesFrom (fuel + 1) read place text =
      lexemesFrom fuel (.leaf tree :: read) ((place.afterAll blanks).afterAll taken) rest := by
  rw [lexemesFrom, skipped]
  simp only [List.reverse_reverse, undocumented, unopened, unclosed, found]

theorem leaf?_encode (value : String) {rest : List Char} (apart : IsApart rest) :
    leaf? place ((encode value).toList ++ rest) =
      some (.literal (encode value) place, (encode value).toList.reverse, rest) := by
  rw [leaf?, literal?_encode value apart]
  simp only [List.reverse_reverse, String.ofList_toList]

/-- What a list of arguments puts in front of each: nothing, or a blank. -/
inductive IsLead : List Char → Prop
  | none : IsLead []
  | blank : IsLead [' ']

/-- A quotation is one token. -/
theorem lexemesFrom_encode {lead rest : List Char} (leads : IsLead lead) (value : String)
    (apart : IsApart rest) :
    lexemesFrom (fuel + 2) read place (lead ++ ((encode value).toList ++ rest)) =
      lexemesFrom (fuel + 1) (.leaf (.literal (encode value) (place.afterAll lead)) :: read)
        ((place.afterAll lead).afterAll (encode value).toList) rest := by
  have spelled : (encode value).toList ++ rest =
      '"' :: (value.toList.flatMap escape ++ ['"'] ++ rest) := by
    simp [toList_encode]
  have skipped : skip (fuel + 2) [] (lead ++ ((encode value).toList ++ rest)) =
      (lead.reverse, '"' :: (value.toList.flatMap escape ++ ['"'] ++ rest)) := by
    rw [spelled]
    cases leads <;> rfl
  have found : leaf? (place.afterAll lead) _ = _ := leaf?_encode value apart
  rw [spelled] at found
  exact lexemesFrom_leaf skipped rfl rfl rfl found

theorem lexemesFrom_comma (rest : List Char) :
    lexemesFrom (fuel + 1) read place (',' :: ' ' :: rest) =
      lexemesFrom fuel (.leaf (.punct ',' false place) :: read) (place.afterAll [',']) (' ' :: rest) := by
  have skipped : skip (fuel + 1) [] (',' :: ' ' :: rest) = ([].reverse, ',' :: ' ' :: rest) := rfl
  have found : leaf? (place.afterAll []) (',' :: ' ' :: rest) =
      some (.punct ',' false place, [','].reverse, ' ' :: rest) := rfl
  exact lexemesFrom_leaf skipped rfl rfl rfl found

end Lexer

/-- Quotations with commas between them. -/
def argumentText (values : List String) : List Char :=
  [',', ' '].intercalate (values.map fun value => (encode value).toList)

/-- The tokens of a list of quotations that begins at a place. -/
def argumentTrees (place : Position) : List String → List Tree
  | [] => []
  | [value] => [.literal (encode value) place]
  | value :: next :: rest =>
    let stop := place.afterAll (encode value).toList
    .literal (encode value) place :: .punct ',' false stop ::
      argumentTrees (stop.afterAll [',', ' ']) (next :: rest)

theorem argumentText_cons_cons (value next : String) (rest : List String) :
    argumentText (value :: next :: rest) =
      (encode value).toList ++ ',' :: ' ' :: argumentText (next :: rest) := by
  simp [argumentText, List.intercalate_cons_cons]

theorem afterAll_append (place : Position) (first second : List Char) :
    place.afterAll (first ++ second) = (place.afterAll first).afterAll second :=
  List.foldl_append

namespace Lexer

theorem lexemesFrom_nil {fuel : Nat} {read : List Lexeme} {place : Position} :
    lexemesFrom (fuel + 1) read place [] = read.reverse := rfl

theorem lexemesFrom_argumentText (value : String) (rest : List String) {lead : List Char}
    (leads : IsLead lead) {fuel : Nat} (read : List Lexeme) (place : Position)
    (enough : (lead ++ argumentText (value :: rest)).length < fuel) :
    lexemesFrom fuel read place (lead ++ argumentText (value :: rest)) =
      read.reverse ++ (argumentTrees (place.afterAll lead) (value :: rest)).map .leaf := by
  induction rest generalizing value lead fuel read place with
  | nil =>
    have filled := two_le_length_encode value
    have alone : argumentText [value] = (encode value).toList ++ [] := by simp [argumentText]
    rw [alone, List.length_append, List.length_append] at enough
    obtain ⟨fuel, rfl⟩ : ∃ more, fuel = more + 2 := ⟨fuel - 2, by omega⟩
    rw [alone, lexemesFrom_encode leads value isApart_nil, lexemesFrom_nil]
    simp [argumentTrees]
  | cons next rest ih =>
    have filled := two_le_length_encode value
    have apart : IsApart (',' :: ' ' :: argumentText (next :: rest)) := by
      intro c found
      cases found
      decide
    rw [argumentText_cons_cons, List.length_append, List.length_append, List.length_cons] at enough
    obtain ⟨fuel, rfl⟩ : ∃ more, fuel = more + 2 := ⟨fuel - 2, by omega⟩
    have later : ([' '] ++ argumentText (next :: rest)).length < fuel := by
      simp only [List.length_append, List.length_cons, List.length_nil] at enough ⊢
      omega
    rw [argumentText_cons_cons, lexemesFrom_encode leads value apart, lexemesFrom_comma]
    refine (ih next .blank _ _ later).trans ?_
    simp [argumentTrees, ← afterAll_append]

theorem assemble_leaves (found others : List Tree) :
    assemble [] found (others.map .leaf) = .ok (found.reverse ++ others) := by
  induction others generalizing found with
  | nil => simp [assemble]
  | cons tree rest ih => simpa [assemble] using ih (tree :: found)

end Lexer

theorem trees_argumentText (values : List String) :
    trees (argumentText values) = .ok (argumentTrees {} values) := by
  cases values with
  | nil => rfl
  | cons value rest =>
    have lexed := Lexer.lexemesFrom_argumentText value rest .none [] {} (Nat.lt_succ_self _)
    have begun : (argumentText (value :: rest)).head? = some '"' := by
      cases rest <;> simp [argumentText, List.intercalate_cons_cons, toList_encode]
    obtain ⟨after, spelled⟩ := List.head?_eq_some_iff.mp begun
    have plain : trees (argumentText (value :: rest)) =
        Lexer.assemble [] [] (Lexer.lexemes {} (argumentText (value :: rest))) := by
      rw [spelled]
      rfl
    rw [plain, Lexer.lexemes]
    refine (congrArg (Lexer.assemble [] []) lexed).trans ?_
    exact Lexer.assemble_leaves [] _

/-- One argument, and the comma after it. -/
def argumentEntry (rules : Rules) : Reader (Option Argument) := do
  if ← isDone then return none
  let read ← tracing (rules.expression true)
  if !(← isDone) then mark ","
  return some (argumentOf read)

theorem collectWithin_of_some {α : Type} {reader : Reader (Option α)} {fuel : Nat} {found : List α}
    {before after : State} {value : α} (next : reader before = .ok (some value, after)) :
    collectWithin reader (fuel + 1) found before = collectWithin reader fuel (value :: found) after := by
  change (reader before).bind _ = _
  rw [next]
  rfl

theorem collectWithin_of_none {α : Type} {reader : Reader (Option α)} {fuel : Nat} {found : List α}
    {before after : State} (done : reader before = .ok (none, after)) :
    collectWithin reader (fuel + 1) found before = .ok (found.reverse, after) := by
  change (reader before).bind _ = _
  rw [done]
  rfl

section Entries

variable (depth : Nat) (close : Position) (taken : List Tree)

theorem argumentEntry_done :
    argumentEntry (rulesWithin depth) ⟨[], close, taken, none⟩ = .ok (none, ⟨[], close, taken, none⟩) := rfl

theorem argumentEntry_last (text : String) (place : Position) :
    argumentEntry (rulesWithin (depth + 4)) ⟨[.literal text place], close, taken, none⟩ =
      .ok (some (argumentOf (.literal (Literal.ofText text), [.literal text place])),
        ⟨[], close, .literal text place :: taken, none⟩) := rfl

theorem argumentEntry_comma (text : String) (place point : Position) (rest : List Tree) :
    argumentEntry (rulesWithin (depth + 4))
        ⟨.literal text place :: .punct ',' false point :: rest, close, taken, none⟩ =
      .ok (some (argumentOf (.literal (Literal.ofText text), [.literal text place])),
        ⟨rest, close, .punct ',' false point :: .literal text place :: taken, none⟩) := rfl

theorem argumentOf_encode (value : String) (read : List Tree) :
    argumentOf (.literal (Literal.ofText (encode value)), read) = .literal value := by
  rw [ofText_encode]
  rfl

/-- Each token that is no comma is read as an argument. -/
theorem collectWithin_argumentEntry (values : List String) (place : Position) {fuel : Nat}
    (found : List Argument) (enough : (argumentTrees place values).length < fuel) :
    ∃ after, collectWithin (argumentEntry (rulesWithin (depth + 4))) fuel found
      ⟨argumentTrees place values, close, taken, none⟩ =
        .ok (found.reverse ++ values.map .literal, ⟨[], close, after, none⟩) := by
  induction place, values using argumentTrees.induct generalizing fuel found taken with
  | case1 place =>
    obtain ⟨fuel, rfl⟩ : ∃ more, fuel = more + 1 := ⟨fuel - 1, by omega⟩
    refine ⟨taken, ?_⟩
    rw [argumentTrees, collectWithin_of_none (argumentEntry_done (depth + 4) close taken)]
    simp
  | case2 place value =>
    rw [argumentTrees, List.length_singleton] at enough
    obtain ⟨fuel, rfl⟩ : ∃ more, fuel = more + 2 := ⟨fuel - 2, by omega⟩
    refine ⟨.literal (encode value) place :: taken, ?_⟩
    rw [argumentTrees, collectWithin_of_some (argumentEntry_last depth close taken _ place),
      collectWithin_of_none (argumentEntry_done (depth + 4) close _), argumentOf_encode]
    simp
  | case3 place value next rest stop ih =>
    rw [argumentTrees, List.length_cons, List.length_cons] at enough
    obtain ⟨fuel, rfl⟩ : ∃ more, fuel = more + 1 := ⟨fuel - 1, by omega⟩
    obtain ⟨after, others⟩ := ih (.punct ',' false stop :: .literal (encode value) place :: taken)
      (.literal value :: found) (Nat.lt_of_succ_lt (Nat.lt_of_succ_lt_succ enough))
    refine ⟨after, ?_⟩
    rw [argumentTrees, collectWithin_of_some (argumentEntry_comma depth close taken _ place _ _),
      argumentOf_encode]
    refine others.trans ?_
    simp

end Entries

/-- A reading that comes to the end of the tokens is one of all of them. -/
theorem readAll_of_ok {α : Type} {reader : Rules → Reader α} {trees : List Tree} {value : α}
    {taken : List Tree} (read : reader (rulesWithin (8 * Tree.size.sizeAll trees + 32))
      ⟨trees, {}, [], none⟩ = .ok (value, ⟨[], {}, taken, none⟩)) :
    readAll reader trees = .ok value := by
  change (reader _ _).bind _ = _
  rw [read]
  rfl

theorem arguments_argumentTrees (place : Position) (values : List String) :
    (Held.list (argumentTrees place values)).arguments = values.map .literal := by
  obtain ⟨taken, found⟩ := collectWithin_argumentEntry
    (8 * Tree.size.sizeAll (argumentTrees place values) + 28) {} [] values place []
    (Nat.lt_succ_of_lt (Nat.lt_succ_self _))
  have read : readAll argumentSequence (argumentTrees place values) = .ok (values.map .literal) :=
    readAll_of_ok found
  rw [Held.arguments, read]

theorem toList_constantLine (name value : String) (rest : List Char) :
    (Artifact.constantLine name value).toList ++ rest =
      ("    pub const " ++ name ++ ": &'static str = ").toList ++
        ((encode value).toList ++ ';' :: '\n' :: rest) := by
  change (("    pub const " ++ name ++ ": &'static str = ") ++ encode value ++ ";\n").toList ++ rest = _
  rw [String.toList_append, String.toList_append, List.append_assoc, List.append_assoc]
  rfl

/-- A text written as a string literal stays on its line and is read as it was: as the one token there is,
as an argument among others, and up to the end of a generated constant. -/
theorem reads_encode (value : String) :
    '\n' ∉ (encode value).toList ∧ '\r' ∉ (encode value).toList ∧
      Literal.ofText (encode value) = .string value ∧
      trees (encode value).toList = .ok [.literal (encode value) {}] ∧
      (Held.list [.literal (encode value) {}]).arguments = [.literal value] ∧
      (∀ before after, ∃ found, trees (argumentText (before ++ value :: after)) = .ok found ∧
        (Held.list found).arguments = (before ++ value :: after).map .literal) ∧
      ∀ name rest, (Artifact.constantLine name value).toList ++ rest =
          ("    pub const " ++ name ++ ": &'static str = ").toList ++
            ((encode value).toList ++ ';' :: '\n' :: rest) ∧
        literal? ((encode value).toList ++ ';' :: '\n' :: rest) =
          some ((encode value).toList.reverse, ';' :: '\n' :: rest) := by
  have alone : argumentText [value] = (encode value).toList := by simp [argumentText]
  have tokens := trees_argumentText [value]
  rw [alone] at tokens
  have ended : ∀ rest, IsApart (';' :: '\n' :: rest) := by
    intro rest c found
    cases found
    decide
  refine ⟨IsLineEnd.not_mem_encode (Or.inl rfl) value, IsLineEnd.not_mem_encode (Or.inr rfl) value,
    ofText_encode value, tokens, arguments_argumentTrees {} [value], fun before after => ?_,
    fun name rest => ⟨toList_constantLine name value rest, literal?_encode value (ended rest)⟩⟩
  exact ⟨_, trees_argumentText _, arguments_argumentTrees {} _⟩

end TermBind.Source
