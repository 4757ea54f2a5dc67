import TermBind.Source.Literal
import TermBind.Source.Syntax

/-! Reading token trees: what stands next, taking tokens, and going into groups. -/
namespace TermBind.Source.Grammar

/-- The tokens that are left, the place to report when none is, the tokens taken so far in their
plain spacing with the latest first, and the first token left over at the end of a group. -/
structure State where
  rest : List Tree
  close : Position
  taken : List Tree := []
  stray : Option Position := none

/-- A reading that fails does so at a place. -/
abbrev Reader := StateT State (Except Position)

variable {α : Type}

def keywords : List String :=
  ["_", "abstract", "as", "async", "await", "become", "box", "break", "const", "continue", "crate",
    "do", "dyn", "else", "enum", "extern", "false", "final", "fn", "for", "if", "impl", "in", "let",
    "loop", "macro", "match", "mod", "move", "mut", "override", "priv", "pub", "ref", "return",
    "Self", "self", "static", "struct", "super", "trait", "true", "try", "type", "typeof", "unsafe",
    "unsized", "use", "virtual", "where", "while", "yield"]

def atAnyWord : List Tree → Bool
  | .word .. :: _ => true
  | _ => false

/-- An identifier, which no keyword is. -/
def atName : List Tree → Bool
  | .word word _ :: _ => !keywords.contains word.text
  | _ => false

def atWord (text : String) : List Tree → Bool
  | .word word _ :: _ => word.text == text
  | _ => false

def atAnyOf (words : List String) (trees : List Tree) : Bool := words.any fun word => atWord word trees

private def punctsAhead : List Char → List Tree → Bool
  | [], _ => true
  | [mark], .punct c _ _ :: _ => c == mark
  | mark :: marks, .punct c joint _ :: rest => c == mark && joint && punctsAhead marks rest
  | _, _ => false

/-- Punctuation whose characters follow each other at once. -/
def atMark (mark : String) (trees : List Tree) : Bool := punctsAhead mark.toList trees

def atLifetime : List Tree → Bool
  | .punct '\'' true _ :: .word .. :: _ => true
  | _ => false

def atGroup (delimiter : Delimiter) : List Tree → Bool
  | .group found _ _ _ :: _ => found = delimiter
  | _ => false

def atNumber : List Tree → Bool
  | .literal text _ :: _ =>
    match Literal.ofText text with
    | .integer .. | .float _ => true
    | _ => false
  | _ => false

/-- A literal, a truth value or a negative number. -/
def atLiteral : List Tree → Bool
  | .literal .. :: _ => true
  | .word word _ :: _ => word.text == "true" || word.text == "false"
  | .punct '-' _ _ :: rest => atNumber rest
  | _ => false

def atFloat : List Tree → Bool
  | .literal text _ :: _ =>
    match Literal.ofText text with
    | .float _ => true
    | _ => false
  | _ => false

def atString : List Tree → Bool
  | .literal text _ :: _ =>
    match Literal.ofText text with
    | .string _ => true
    | _ => false
  | _ => false

/-- What stands after the next token; a lifetime is one token. -/
def beyond : List Tree → List Tree
  | .punct '\'' true _ :: .word .. :: rest => rest
  | _ :: rest => rest
  | [] => []

def beyond2 (trees : List Tree) : List Tree := beyond (beyond trees)

def ahead : Reader (List Tree) := return (← get).rest

/-- Ask about what stands next. -/
def peek (test : List Tree → Bool) : Reader Bool := return test (← get).rest

def isDone : Reader Bool := peek List.isEmpty

def place : Reader Position := do
  let state ← get
  match state.rest with
  | [] => return state.close
  | tree :: _ => return tree.start

def fail : Reader α := do throw (← place)

/-- Take the next token as it stands. -/
def takeTree : Reader Tree := do
  let state ← get
  match state.rest with
  | [] => throw state.close
  | tree :: rest =>
    set { state with rest, taken := tree :: state.taken }
    return tree

private def plainMarks (place : Position) : List Char → List Tree
  | [] => []
  | [c] => [.punct c false place]
  | c :: rest => .punct c true place :: plainMarks place rest

def mark (text : String) : Reader Unit := do
  let state ← get
  if atMark text state.rest then
    let place ← place
    set
      { state with
        rest := state.rest.drop text.length
        taken := (plainMarks place text.toList).reverse ++ state.taken }
  else fail

/-- Take punctuation without keeping it among the taken tokens. -/
def dropMark (text : String) : Reader Unit := do
  let taken := (← get).taken
  mark text
  modify fun state => { state with taken }

def word (text : String) : Reader Unit := do
  if ← peek (atWord text) then discard takeTree else fail

def anyWord : Reader Word := do
  match ← ahead with
  | .word word _ :: _ =>
    discard takeTree
    return word
  | _ => fail

def name : Reader Word := do
  if ← peek atName then anyWord else fail

def lifetime : Reader Unit := do
  if ← peek atLifetime then
    discard takeTree
    discard takeTree
  else fail

def optional (test : List Tree → Bool) (reader : Reader Unit) : Reader Bool := do
  let found ← peek test
  if found then reader
  return found

def optionalMark (text : String) : Reader Bool := optional (atMark text) (mark text)

def optionalWord (text : String) : Reader Bool := optional (atWord text) (word text)

def optionalLifetime : Reader Bool := optional atLifetime lifetime

/-- Take a literal; a negative number is one token. -/
def literal : Reader Literal := do
  match ← ahead with
  | .literal text _ :: _ =>
    discard takeTree
    return Literal.ofText text
  | .word word _ :: _ =>
    if word.text == "true" || word.text == "false" then
      discard takeTree
      return .string word.text
    else fail
  | .punct '-' _ place :: .literal text _ :: rest =>
    if ← peek atLiteral then
      let text := "-" ++ text
      modify fun state => { state with rest, taken := .literal text place :: state.taken }
      return Literal.ofText text
    else fail
  | _ => fail

private def isIndex (text : String) : Bool :=
  match Literal.ofText text with
  | .integer digits suffix => suffix.isEmpty && digits.toNat?.any (· < Nat.pow 2 32)
  | _ => false

/-- The number of a field. -/
def atIndex : List Tree → Bool
  | .literal text _ :: _ => isIndex text
  | _ => false

/-- The name or number of a field; says whether it is a name. -/
def member : Reader Bool := do
  if ← peek atName then
    discard name
    return true
  else if ← peek atIndex then
    discard takeTree
    return false
  else fail

private def indexTrees (place : Position) : List String → List Tree
  | [] => []
  | [part] => [.literal part place]
  | part :: rest => .literal part place :: .punct '.' false place :: indexTrees place rest

/-- Field numbers that were written like a float; says whether a point came last. -/
def indices : Reader Bool := do
  match ← ahead with
  | .literal text place :: rest =>
    let parts := (text.toList.splitOn '.').map String.ofList
    let isOpen := parts.getLast? == some ""
    let parts := if isOpen then parts.dropLast else parts
    if !parts.all isIndex then fail
    let trees := indexTrees place parts ++ if isOpen then [.punct '.' false place] else []
    modify fun state => { state with rest, taken := trees.reverse ++ state.taken }
    return isOpen
  | _ => fail

/-- Read the inside of a group; what is left in it is reported if nothing else is wrong. -/
def inside (delimiter : Delimiter) (reader : Reader α) : Reader α := fun state =>
  match state.rest with
  | .group found trees opening closing :: rest =>
    if found = delimiter then
      match reader { rest := trees, close := closing, stray := state.stray } with
      | .ok (value, inner) =>
        .ok (value,
          { state with
            rest
            taken := .group found inner.taken.reverse opening closing :: state.taken
            stray := inner.stray.or (inner.rest.head?.map Tree.start) })
      | .error place => .error place
    else .error opening
  | tree :: _ => .error tree.start
  | [] => .error state.close

/-- Take a group as it stands; says whether it is in braces. -/
def anyGroup : Reader Bool := do
  match ← ahead with
  | .group delimiter _ _ _ :: _ =>
    discard takeTree
    return delimiter == .brace
  | _ => fail

private def repeatWithin (reader : Reader Bool) : Nat → Reader Unit
  | 0 => fail
  | fuel + 1 => do
    if ← reader then repeatWithin reader fuel

/-- Repeat while the reading asks for more; each round takes a token. -/
def repeatWhile (reader : Reader Bool) : Reader Unit := do
  repeatWithin reader ((← get).rest.length + 2)

def collectWithin (reader : Reader (Option α)) : Nat → List α → Reader (List α)
  | 0, _ => fail
  | fuel + 1, read => do
    match ← reader with
    | some value => collectWithin reader fuel (value :: read)
    | none => return read.reverse

/-- Collect what repeated reading gives, until it gives nothing. -/
def collect (reader : Reader (Option α)) : Reader (List α) := do
  collectWithin reader ((← get).rest.length + 2) []

/-- Entries with commas between them, up to the end of the group. -/
def separated (reader : Reader Unit) : Reader Unit :=
  repeatWhile do
    if ← isDone then return false
    reader
    if ← isDone then return false
    mark ","
    return true

/-- What a reading would give and leave, without taking anything. -/
def attempt (reader : Reader α) : Reader (Option (α × State)) := fun state =>
  match reader state with
  | .ok read => .ok (some read, state)
  | .error _ => .ok (none, state)

/-- The tokens that a reading takes, in their plain spacing. -/
def tracing (reader : Reader α) : Reader (α × List Tree) := do
  let before := (← get).taken
  modify fun state => { state with taken := [] }
  let value ← reader
  let taken := (← get).taken
  modify fun state => { state with taken := taken ++ before }
  return (value, taken.reverse)

section Gives

variable {β : Type}

theorem exists_of_bind_ok {first : Reader α} {next : α → Reader β} {state after : State} {value : β}
    (read : (first >>= next) state = .ok (value, after)) :
    ∃ found between, first state = .ok (found, between) ∧ next found between = .ok (value, after) := by
  change (first state).bind _ = _ at read
  cases found : first state with
  | error place =>
    rw [found] at read
    cases read
  | ok result =>
    rw [found] at read
    exact ⟨result.1, result.2, rfl, read⟩

theorem bind_eq_ok {first : Reader α} {next : α → Reader β} {state between after : State} {found : α}
    {value : β} (read : first state = .ok (found, between))
    (read' : next found between = .ok (value, after)) :
    (first >>= next) state = .ok (value, after) := by
  change (first state).bind _ = _
  rw [read]
  exact read'

/-- Whatever a reading gives from a state on has a property. -/
def Gives (reader : Reader α) (state : State) (holds : α → Prop) : Prop :=
  ∀ value after, reader state = .ok (value, after) → holds value

variable {holds : α → Prop} {reader : Reader α} {state : State}

theorem Gives.pure {value : α} (own : holds value) : Gives (Pure.pure value) state holds := by
  intro value' after read
  cases read
  exact own

theorem Gives.read {next : α → Reader β} {holds' : β → Prop}
    (later : ∀ value between, reader state = .ok (value, between) → Gives (next value) between holds') :
    Gives (reader >>= next) state holds' := by
  intro value after read
  obtain ⟨found, between, read, read'⟩ := exists_of_bind_ok read
  exact later found between read value after read'

theorem Gives.bind {next : α → Reader β} {holds' : β → Prop} (first : Gives reader state holds)
    (later : ∀ value between, holds value → Gives (next value) between holds') :
    Gives (reader >>= next) state holds' :=
  .read fun value between read => later value between (first value between read)

/-- What is read first may be anything. -/
theorem Gives.after {next : α → Reader β} {holds' : β → Prop}
    (later : ∀ value between, Gives (next value) between holds') :
    Gives (reader >>= next) state holds' :=
  .read fun value between _ => later value between

/-- Asking for the place takes nothing. -/
theorem Gives.place {next : Position → Reader β} {holds' : β → Prop}
    (later : ∀ found, Gives (next found) state holds') : Gives (place >>= next) state holds' := by
  refine .read fun found between read => ?_
  have same : between = state := by
    obtain ⟨known, _, same, read⟩ := exists_of_bind_ok read
    cases same
    cases rest : state.rest with
    | nil =>
      rw [rest] at read
      cases read
      rfl
    | cons tree trees =>
      rw [rest] at read
      cases read
      rfl
  rw [same]
  exact later found

theorem Gives.ahead {next : List Tree → Reader β} {holds' : β → Prop}
    (later : ∀ trees, Gives (next trees) state holds') : Gives (ahead >>= next) state holds' :=
  later state.rest

theorem Gives.imp {holds' : α → Prop} (gives : Gives reader state holds)
    (only : ∀ value, holds value → holds' value) : Gives reader state holds' :=
  fun value after read => only value (gives value after read)

theorem Gives.ite {test : Prop} [Decidable test] {other : Reader α} (yes : Gives reader state holds)
    (no : Gives other state holds) : Gives (if test then reader else other) state holds := by
  split
  · exact yes
  · exact no

theorem Gives.inside (inner : ∀ within, Gives reader within holds) (delimiter : Delimiter) :
    Gives (Grammar.inside delimiter reader) state holds := by
  intro value after read
  unfold Grammar.inside at read
  split at read
  · split at read
    · split at read
      · rename_i found within
        cases read
        exact inner _ _ _ within
      · cases read
    · cases read
  · cases read
  · cases read

theorem gives_throw (place : Position) : Gives (throw place : Reader α) state holds := by
  intro value after read
  cases read

theorem gives_fail : Gives (fail : Reader α) state holds :=
  .after fun place _ => gives_throw place

theorem Gives.collectWithin {reader : Reader (Option α)}
    (each : ∀ state, Gives reader state fun found => ∀ value ∈ found, holds value) (fuel : Nat)
    {state : State} {read : List α} (known : ∀ value ∈ read, holds value) :
    Gives (Grammar.collectWithin reader fuel read) state fun values => ∀ value ∈ values, holds value := by
  induction fuel generalizing state read with
  | zero => exact gives_fail
  | succ fuel ih =>
    refine (each state).bind fun found between own => ?_
    cases found with
    | none => exact .pure (by simpa using known)
    | some value => exact ih (List.forall_mem_cons.mpr ⟨own value rfl, known⟩)

theorem Gives.collect {reader : Reader (Option α)}
    (each : ∀ state, Gives reader state fun found => ∀ value ∈ found, holds value) :
    Gives (Grammar.collect reader) state fun values => ∀ value ∈ values, holds value :=
  .after fun _ _ => .collectWithin each _ (by simp)

end Gives

end TermBind.Source.Grammar
