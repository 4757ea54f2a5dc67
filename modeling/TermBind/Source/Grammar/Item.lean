import TermBind.Source.Grammar.Expression

/-! Items: declarations with their fields, signatures and members. -/
namespace TermBind.Source.Grammar

variable (rules : Rules)

/-- Says whether a visibility is written. Parentheses belong to it when they hold one of the words of
paths alone or begin with `in`. -/
def visibility : Reader Bool := do
  if !(← optionalWord "pub") then return false
  match ← ahead with
  | .group .paren (.word first _ :: others) _ _ :: _ =>
    if first.text == "in" then
      inside .paren do
        word "in"
        discard plainPath
    else if others.isEmpty && ["crate", "self", "super"].contains first.text then discard anyGroup
    return true
  | _ => return true

private def beyondWord (word : String) (trees : List Tree) : List Tree :=
  if atWord word trees then beyond trees else trees

private def beyondLinkage (trees : List Tree) : List Tree :=
  if atWord "extern" trees then
    if atString (beyond trees) then beyond2 trees else beyond trees
  else trees

private def beyondSafety (allowSafe : Bool) (trees : List Tree) : List Tree :=
  if allowSafe && atWord "safe" trees then beyond trees else beyondWord "unsafe" trees

def atSignature (allowSafe : Bool) (trees : List Tree) : Bool :=
  atWord "fn" <| beyondLinkage <| beyondSafety allowSafe <|
    beyondWord "async" <| beyondWord "const" trees

/-- The object that a method is called on; gives the place of its name. -/
private def receiver : Reader Position := do
  let isReference ← optionalMark "&"
  if isReference then discard optionalLifetime
  discard (optionalWord "mut")
  let start ← place
  word "self"
  if !isReference then
    if ← optionalMark ":" then rules.anyType
  return start

/-- Dots for further arguments; nothing follows them but a comma. -/
private def variadicDots : Reader Bool :=
  optional (atMark "...") do
    mark "..."
    if !(← isDone) then mark ","

/-- An argument with a pattern or, in an old form, a type alone; says whether it was variadic. -/
private def typedArgument : Reader Bool := do
  if ← peek fun trees => atName trees && atMark "<" (beyond trees) then
    rules.anyType
    return false
  discard rules.pattern
  mark ":"
  if ← variadicDots then return true
  rules.anyType
  return false

private def argumentsFrom (fuel : Nat) (isFirst : Bool) : Reader Unit := do
  match fuel with
  | 0 => fail
  | fuel + 1 =>
    if ← isDone then return
    skipAttributes rules
    if ← variadicDots then return
    match ← attempt (receiver rules) with
    | some (start, after) =>
      set after
      if !isFirst then throw start
    | none => if ← typedArgument rules then return
    if ← isDone then return
    mark ","
    argumentsFrom fuel false

/-- What a declaration is called, and where. -/
structure Naming where
  name : Word
  place : Position
deriving Repr

private def named (reader : Reader Word) : Reader Naming := do
  let start ← place
  return ⟨← reader, start⟩

private def signature (allowSafe : Bool) : Reader Naming := do
  discard (optionalWord "const")
  discard (optionalWord "async")
  if !(← optionalWord "unsafe") && allowSafe then discard (optionalWord "safe")
  discard linkage
  word "fn"
  let naming ← named name
  discard (generics rules)
  inside .paren do argumentsFrom rules ((← ahead).length + 1) true
  discard (returnType rules true)
  discard (conditions rules)
  return naming

private def heading (kind : ItemKind) (naming : Naming) (attributes : List Attribute := []) : Heading :=
  { kind, name := naming.name.text, place := naming.place, attributes
    isWord := fun _ => naming.name.isWord }

private def atNameOrBlank (trees : List Tree) : Bool := atName trees || atWord "_" trees

private def nameOrBlank : Reader Word := do
  if ← peek atNameOrBlank then anyWord else fail

/-- What a constant has besides its type; only a value makes it a plain declaration. -/
private def constant : Reader (Naming × Bool) := do
  word "const"
  let naming ← named nameOrBlank
  let isGeneric ← generics rules
  mark ":"
  rules.anyType
  let hasValue ← optionalMark "="
  if hasValue then rules.anyExpression
  let isConditional ← conditions rules
  mark ";"
  return (naming, hasValue && !isGeneric && !isConditional)

/-- Where the conditions of a type alias stand. -/
private inductive ConditionPlace where
  | beforeType
  | afterType
  | anywhere
deriving DecidableEq

/-- A type alias; says whether it has a type and no bounds. -/
private def typeAlias (conditionPlace : ConditionPlace) : Reader (Naming × Bool) := do
  word "type"
  let naming ← named name
  discard (generics rules)
  let hasBounds ← optionalMark ":"
  if hasBounds then
    boundsUntil rules fun trees => atWord "where" trees || atMark "=" trees || atMark ";" trees
  let isConditional ← if conditionPlace = .afterType then pure false else conditions rules
  let hasType ← optionalMark "="
  if hasType then rules.anyType
  if !isConditional && conditionPlace ≠ .beforeType then discard (conditions rules)
  mark ";"
  return (naming, hasType && !hasBounds)

private def macroCall : Reader Unit := do
  discard plainPath
  mark "!"
  if !(← anyGroup) then mark ";"

private def atMacroCall (trees : List Tree) : Bool :=
  atName trees || atAnyOf ["self", "super", "crate"] trees || atMark "::" trees

/-- Fields in braces; a field without a name may hold fields of its own. -/
private def namedFieldsFrom (fuel : Nat) : Reader Unit := do
  match fuel with
  | 0 => fail
  | fuel + 1 =>
    inside .brace <| separated do
      skipAttributes rules
      discard visibility
      let isBlank ← peek (atWord "_")
      discard (if isBlank then anyWord else name)
      mark ":"
      let trees ← ahead
      if isBlank &&
          (atWord "struct" trees || (atWord "union" trees && atGroup .brace (beyond trees))) then
        discard anyWord
        namedFieldsFrom fuel
      else rules.anyType

private def namedFields : Reader Unit := do
  namedFieldsFrom rules (Tree.size.sizeAll (← ahead) + 1)

private def tupleFields : Reader Unit :=
  inside .paren <| separated do
    skipAttributes rules
    discard visibility
    rules.anyType

private def variant : Reader Unit := do
  skipAttributes rules
  discard visibility
  discard name
  let trees ← ahead
  if atGroup .brace trees then namedFields rules
  else if atGroup .paren trees then tupleFields rules
  if ← optionalMark "=" then rules.anyExpression

private def bodyOrSemicolon : Reader Unit := do
  if !(← optionalMark ";") then discard (attributedBlock rules)

private def functionMember (allowSafe : Bool) : Reader Unit := do
  discard (signature rules allowSafe)
  bodyOrSemicolon rules

private def traitMember : Reader Unit := do
  skipAttributes rules
  let isVisible ← visibility
  let isDefault ← optionalWord "default"
  let trees ← ahead
  if atSignature false trees then functionMember rules false
  else if atWord "const" trees then
    if atAnyOf ["async", "unsafe", "extern"] (beyond trees) then functionMember rules false
    else discard (constant rules)
  else if atWord "type" trees then discard (typeAlias rules .afterType)
  else if !isVisible && !isDefault && atMacroCall trees then macroCall
  else fail

private def implementationMember : Reader Unit := do
  skipAttributes rules
  let isVisible ← visibility
  let isDefault ← optional (fun trees => atWord "default" trees && !atMark "!" (beyond trees))
    (word "default")
  let trees ← ahead
  if atSignature false trees then functionMember rules false
  else if atWord "const" trees then discard (constant rules)
  else if atWord "type" trees then discard (typeAlias rules .afterType)
  else if !isVisible && !isDefault && atMacroCall trees then macroCall
  else fail

private def atForeignStatic (trees : List Tree) : Bool :=
  atWord "static" trees || (atAnyOf ["unsafe", "safe"] trees && atWord "static" (beyond trees))

private def foreignStatic : Reader Unit := do
  if !(← optionalWord "unsafe") then discard (optionalWord "safe")
  word "static"
  discard (optionalWord "mut")
  discard name
  mark ":"
  rules.anyType
  if ← optionalMark "=" then rules.anyExpression
  mark ";"

private def foreignMember : Reader Unit := do
  skipAttributes rules
  let isVisible ← visibility
  let trees ← ahead
  if atSignature true trees then functionMember rules true
  else if atForeignStatic trees then foreignStatic rules
  else if atWord "type" trees then discard (typeAlias rules .anywhere)
  else if !isVisible && atMacroCall trees then macroCall
  else fail

/-- Members in braces, after attributes of the item itself. -/
private def members (reader : Reader Unit) : Reader (List Attribute) :=
  inside .brace do
    let attributes ← innerAttributes rules
    repeatWhile do
      if ← isDone then return false
      reader
      return true
    return attributes

/-- The items up to the end. -/
def items : Reader (List Item) :=
  collect do
    if ← isDone then return none
    return some (← rules.item)

private def functionItem : Reader Item := do
  let naming ← signature rules false
  if ← optionalMark ";" then return .other []
  return .declaration (heading .function naming (← attributedBlock rules))

private def atUseName (trees : List Tree) : Bool :=
  atName trees || atAnyOf ["self", "super", "crate", "try"] trees

/-- The tree of an import, or nothing where an entry of a group starts at the crate root, which only
a group without a path may do. -/
private def useTreeFrom (fuel : Nat) (allowRoot : Bool) : Reader (Option UseTree) := do
  match fuel with
  | 0 => fail
  | fuel + 1 =>
    let trees ← ahead
    if atUseName trees then
      let segment ← anyWord
      if ← optionalMark "::" then
        return (← useTreeFrom fuel false).map (.path segment.text)
      else if ← optionalWord "as" then return some (.rename segment.text (← nameOrBlank).text)
      else return some (.name segment.text)
    else if atMark "*" trees then
      mark "*"
      return some .glob
    else
      let entries ← inside .brace <| collect do
        if ← isDone then return none
        let isRoot ← if allowRoot then optionalMark "::" else pure false
        let entry ← useTreeFrom fuel (allowRoot && !isRoot)
        if !(← isDone) then mark ","
        return some (if isRoot then none else entry)
      return (entries.mapM id).map .group

private def importItem : Reader Item := do
  word "use"
  let isAbsolute ← optionalMark "::"
  let tree ← useTreeFrom (Tree.size.sizeAll (← ahead) + 1) (!isAbsolute)
  mark ";"
  return match tree with
    | some tree => .imports [] tree
    | none => .other []

private def crateItem : Reader Item := do
  word "extern"
  word "crate"
  discard (if ← peek (atWord "self") then anyWord else name)
  if ← optionalWord "as" then discard nameOrBlank
  mark ";"
  return .other []

/-- A foreign block, which has no visibility. -/
private def foreignItem (start : Position) (isVisible : Bool) : Reader Item := do
  if isVisible then throw start
  discard (optionalWord "unsafe")
  if !(← linkage) then fail
  return .other (← members rules (foreignMember rules))

private def staticItem : Reader Item := do
  word "static"
  discard (optionalWord "mut")
  let naming ← named name
  let isTyped ← peek fun trees => !atMark "=" trees
  if isTyped then
    mark ":"
    rules.anyType
  let hasValue ← optionalMark "="
  if hasValue then rules.anyExpression
  mark ";"
  return if isTyped && hasValue then .declaration (heading .static naming) else .other []

private def constantItem : Reader Item := do
  let (naming, isPlain) ← constant rules
  return if isPlain then .declaration (heading .constant naming) else .other []

private def aliasItem : Reader Item := do
  let (naming, isPlain) ← typeAlias rules .beforeType
  return if isPlain then .declaration (heading .typeAlias naming) else .other []

private def structureItem : Reader Item := do
  word "struct"
  let naming ← named name
  discard (generics rules)
  let isConditional ← conditions rules
  let trees ← ahead
  if !isConditional && atGroup .paren trees then
    tupleFields rules
    discard (conditions rules)
    mark ";"
  else if atGroup .brace trees then namedFields rules
  else mark ";"
  return .declaration (heading .struct naming)

private def enumerationItem : Reader Item := do
  word "enum"
  let naming ← named name
  discard (generics rules)
  discard (conditions rules)
  inside .brace (separated (variant rules))
  return .declaration (heading .enumeration naming)

private def unionItem : Reader Item := do
  word "union"
  let naming ← named name
  discard (generics rules)
  discard (conditions rules)
  namedFields rules
  return .declaration (heading .union naming)

/-- A trait with its members; an alias of bounds is no declaration and has no words before it. -/
private def traitItem : Reader Item := do
  let isUnsafe ← optionalWord "unsafe"
  let isAuto ← optionalWord "auto"
  word "trait"
  let naming ← named name
  discard (generics rules)
  if !isUnsafe && !isAuto && (← optionalMark "=") then
    boundsUntil rules fun trees => atWord "where" trees || atMark ";" trees
    discard (conditions rules)
    mark ";"
    return .other []
  else
    if ← optionalMark ":" then
      boundsUntil rules fun trees => atWord "where" trees || atGroup .brace trees
    discard (conditions rules)
    return .declaration (heading .trait naming (← members rules (traitMember rules)))

private def moduleItem : Reader Item := do
  discard (optionalWord "unsafe")
  word "mod"
  let naming ← named (if ← peek (atWord "try") then anyWord else name)
  if ← optionalMark ";" then return .declaration (heading .module naming)
  let (attributes, items) ← inside .brace do
    let attributes ← innerAttributes rules
    return (attributes, ← items rules)
  return .inlineModule (heading .module naming attributes) items

private def atConstImplementation (trees : List Tree) : Bool :=
  atWord "const" trees || (atMark "?" trees && atWord "const" (beyond trees))

/-- What is read of an implementation after its visibility: whether it is constant and of a trait, what
its first type is like, the tokens of the type that it is for, and the attributes inside it. -/
structure ImplementationParts where
  isConst : Bool
  hasTrait : Bool
  shape : TypeShape
  trees : List Tree
  attributes : List Attribute

/-- An implementation is known by its type, the second one if it is for a type. -/
def implementationParts : Reader ImplementationParts := do
  discard (optionalWord "default")
  discard (optionalWord "unsafe")
  word "impl"
  if ← peek parametersFollow then discard (generics rules)
  let isConst ← peek atConstImplementation
  if isConst then
    discard (optionalMark "?")
    word "const"
  let isNegative ← peek fun trees => atMark "!" trees && !atGroup .brace (beyond trees)
  let (shape, first) ← tracing do
    if isNegative then mark "!"
    rules.type true
  let hasTrait ← optionalWord "for"
  let trees ← if hasTrait then pure (← tracing rules.anyType).2 else pure first
  discard (conditions rules)
  let attributes ← members rules (implementationMember rules)
  return { isConst, hasTrait, shape, trees, attributes }

private def implementationItem (start : Position) (isVisible : Bool) : Reader Item := do
  let parts ← implementationParts rules
  let isTraitPath := match parts.shape with
    | .path _ => true
    | _ => false
  return if isVisible || parts.isConst || (parts.hasTrait && !isTraitPath) then .other parts.attributes
    else
      .declaration
        { kind := .implementation, name := displayTrees parts.trees, place := start
          attributes := parts.attributes, isWord := fun other => absurd rfl other }

private def macroDefinition : Reader Item := do
  word "macro"
  discard name
  if ← peek (atGroup .paren) then discard anyGroup
  if ← peek (atGroup .brace) then discard anyGroup else fail
  return .other []

private def macroItem : Reader Item := do
  discard plainPath
  mark "!"
  if ← peek fun trees => atName trees || atWord "try" trees then discard anyWord
  if !(← anyGroup) then mark ";"
  return .other []

/-- Report the token after those given. -/
private def failAfter (words : Nat) : Reader Item := do
  for _ in List.range words do
    discard takeTree
  fail

private def externItem (start : Position) (isVisible : Bool) : Reader Item := do
  let next := beyond (← ahead)
  if atWord "crate" next then crateItem
  else if atGroup .brace next || (atString next && atGroup .brace (beyond next)) then
    foreignItem rules start isVisible
  else failAfter (if atString next then 2 else 1)

private def unsafeItem (start : Position) (isVisible : Bool) (first : Position) : Reader Item := do
  let next := beyond (← ahead)
  if atWord "trait" next || (atWord "auto" next && atWord "trait" (beyond next)) then traitItem rules
  else if atWord "impl" next then implementationItem rules first isVisible
  else if atWord "extern" next then foreignItem rules start isVisible
  else if atWord "mod" next then moduleItem rules
  else failAfter 1

/-- An item after its attributes, the first token of which is given. -/
private def itemBody (first : Position) : Reader Item := do
  let start ← place
  let isVisible ← visibility
  let trees ← ahead
  let next := beyond trees
  if atSignature false trees then functionItem rules
  else if atWord "extern" trees then externItem rules start isVisible
  else if atWord "use" trees then importItem
  else if atWord "static" trees then staticItem rules
  else if atWord "const" trees then constantItem rules
  else if atWord "unsafe" trees then unsafeItem rules start isVisible first
  else if atWord "mod" trees then moduleItem rules
  else if atWord "type" trees then aliasItem rules
  else if atWord "struct" trees then structureItem rules
  else if atWord "enum" trees then enumerationItem rules
  else if atWord "union" trees && atName next then unionItem rules
  else if atWord "trait" trees || (atWord "auto" trees && atWord "trait" next) then traitItem rules
  else if atWord "impl" trees || (atWord "default" trees && !atMark "!" next) then
    implementationItem rules first isVisible
  else if atWord "macro" trees then macroDefinition
  else if !isVisible && atMacroCall trees then macroItem
  else fail

def itemRule : Reader Item := do
  let first ← place
  let outer ← outerAttributes rules
  return (← itemBody rules first).withOuter outer

/-- The rules with a bound on how deep they recur. -/
def rulesWithin : Nat → Rules
  | 0 => default
  | depth + 1 =>
    { type := fun allowSum state => typeRule (rulesWithin depth) allowSum state
      bound := fun allowCapture allowConst state =>
        boundRule (rulesWithin depth) allowCapture allowConst state
      pattern := fun state => patternRule (rulesWithin depth) state
      expression := fun allowStruct state => expressionRule (rulesWithin depth) allowStruct state
      operand := fun allowStruct state => operandRule (rulesWithin depth) allowStruct state
      operators := fun allowStruct base shape state =>
        operatorsRule (rulesWithin depth) allowStruct base shape state
      body := fun state => bodyRule (rulesWithin depth) state
      statements := fun state => statementsRule (rulesWithin depth) state
      item := fun state => itemRule (rulesWithin depth) state }

/-- Read all of a sequence of tokens. A token that is left over at the end of a group counts only
when nothing else is wrong. -/
def readAll {α : Type} (reader : Rules → Reader α) (trees : List Tree) : Except Position α := do
  let rules := rulesWithin (8 * Tree.size.sizeAll trees + 32)
  let (value, state) ← (reader rules).run { rest := trees, close := {} }
  match state.stray.or (state.rest.head?.map Tree.start) with
  | some place => .error place
  | none => .ok value

/-- All that is read of an implementation, from its attributes on. -/
def implementationRule : Reader ImplementationParts := do
  let _ ← outerAttributes rules
  let _ ← visibility
  implementationParts rules

/-- The type that is met from a state on has the name for its text. -/
def IsTypeAt (reader : Reader ImplementationParts) (state : State) (heading : Heading) : Prop :=
  ∃ parts after, reader state = .ok (parts, after) ∧ heading.name = displayTrees parts.trees

theorem IsTypeAt.before {α : Type} {first : Reader α} {next : α → Reader ImplementationParts}
    {state between : State} {found : α} {heading : Heading} (read : first state = .ok (found, between))
    (later : IsTypeAt (next found) between heading) : IsTypeAt (first >>= next) state heading := by
  obtain ⟨parts, after, read', named⟩ := later
  exact ⟨parts, after, bind_eq_ok read read', named⟩

/-- Where the heading of an implementation is read, the type that the implementation is for has its name
for its text. -/
def IsCalledByType (heading : Heading) : Prop :=
  ∃ depth state after, itemRule (rulesWithin depth) state = .ok (.declaration heading, after) ∧
    IsTypeAt (implementationRule (rulesWithin depth)) state heading

/-- What holds of an item that is an implementation, and of those inside an inline module. -/
inductive Made (called : Heading → Prop) (inner : Item → Prop) : Item → Prop
  | implementation {heading : Heading} (own : called heading) : Made called inner (.declaration heading)
  | declaration {heading : Heading} (other : heading.kind ≠ .implementation) :
    Made called inner (.declaration heading)
  | inlineModule {heading : Heading} {items : List Item} (other : heading.kind ≠ .implementation)
    (within : ∀ item ∈ items, inner item) : Made called inner (.inlineModule heading items)
  | imports (attributes : List Attribute) (tree : UseTree) : Made called inner (.imports attributes tree)
  | other (attributes : List Attribute) : Made called inner (.other attributes)

/-- What holds of the implementations in an item, at any depth. -/
inductive Every (called : Heading → Prop) : Item → Prop
  | made {item : Item} (own : Made called (Every called) item) : Every called item

section Made

variable {called called' : Heading → Prop} {inner : Item → Prop}

theorem Made.imp {item : Item} (made : Made called inner item)
    (only : ∀ heading, item = .declaration heading → called heading → called' heading) :
    Made called' inner item := by
  cases made with
  | implementation own => exact .implementation (only _ rfl own)
  | declaration other => exact .declaration other
  | inlineModule other within => exact .inlineModule other within
  | imports attributes tree => exact .imports attributes tree
  | other attributes => exact .other attributes

/-- The attributes in front of an item change neither its name nor what is inside it. -/
theorem Made.withOuter {item : Item} (made : Made called inner item) (outer : List Attribute)
    (only : ∀ heading, called heading →
      called' { heading with attributes := outer ++ heading.attributes }) :
    Made called' inner (item.withOuter outer) := by
  cases made with
  | implementation own => exact .implementation (only _ own)
  | declaration other => exact .declaration other
  | inlineModule other within => exact .inlineModule other within
  | imports attributes tree => exact .imports _ tree
  | other attributes => exact .other _

theorem Made.ite {test : Prop} [Decidable test] {yes no : Item} (own : Made called inner yes)
    (own' : Made called inner no) : Made called inner (if test then yes else no) := by
  split
  · exact own
  · exact own'

variable {rules} {state : State}

private theorem gives_other (attributes : List Attribute) :
    Gives (pure (.other attributes)) state (Made called inner) := .pure (.other attributes)

private theorem gives_heading {kind : ItemKind} (other : kind ≠ .implementation) (naming : Naming)
    (attributes : List Attribute) :
    Gives (pure (.declaration (heading kind naming attributes))) state (Made called inner) :=
  .pure (.declaration other)

private theorem gives_functionItem : Gives (functionItem rules) state (Made called inner) :=
  .after fun naming _ => .after fun _ _ => .ite (gives_other []) <|
    .after fun attributes _ => gives_heading (by decide) naming attributes

private theorem gives_importItem : Gives importItem state (Made called inner) := by
  refine .after fun _ _ => .after fun _ _ => .after fun _ _ => .after fun tree _ => .after fun _ _ => ?_
  cases tree with
  | some tree => exact .pure (.imports [] tree)
  | none => exact gives_other []

private theorem gives_crateItem : Gives crateItem state (Made called inner) :=
  .after fun _ _ => .after fun _ _ => .after fun _ _ => .after fun _ _ => .after fun _ _ =>
    .ite (.after fun _ _ => .after fun _ _ => gives_other []) (.after fun _ _ => gives_other [])

private theorem gives_foreignItem (start : Position) (isVisible : Bool) :
    Gives (foreignItem rules start isVisible) state (Made called inner) := by
  have block (state : State) : Gives (do
      discard (optionalWord "unsafe")
      if !(← linkage) then fail
      return .other (← members rules (foreignMember rules))) state (Made called inner) :=
    .after fun _ _ => .after fun _ _ =>
      .ite (.after fun _ _ => .after fun attributes _ => gives_other attributes)
        (.after fun attributes _ => gives_other attributes)
  exact .ite (.after fun _ between => block between) (block state)

private theorem gives_staticItem : Gives (staticItem rules) state (Made called inner) := by
  refine .after fun _ _ => .after fun _ _ => .after fun naming _ => .after fun isTyped between => ?_
  have ended (state : State) : Gives (do
      let hasValue ← optionalMark "="
      if hasValue then rules.anyExpression
      mark ";"
      return if isTyped && hasValue then .declaration (heading .static naming) else .other [])
      state (Made called inner) := by
    refine .after fun hasValue between => ?_
    have made (state : State) : Gives (pure (if isTyped && hasValue
        then .declaration (heading .static naming) else .other [])) state (Made called inner) :=
      .pure (.ite (.declaration nofun) (.other []))
    exact .ite (.after fun _ _ => .after fun _ after => made after) (.after fun _ after => made after)
  exact .ite (.after fun _ _ => .after fun _ after => ended after) (ended between)

/-- Only a plain one is a declaration. -/
private theorem gives_plain {kind : ItemKind} (other : kind ≠ .implementation)
    (reader : Reader (Naming × Bool)) :
    Gives (do
      let (naming, isPlain) ← reader
      return if isPlain then .declaration (heading kind naming) else .other [])
      state (Made called inner) :=
  .after fun _ _ => .pure (.ite (.declaration other) (.other []))

private theorem gives_structureItem : Gives (structureItem rules) state (Made called inner) := by
  refine .after fun _ _ => .after fun naming _ => .after fun _ _ => .after fun _ _ =>
    .after fun _ between => ?_
  have made (state : State) :
      Gives (pure (.declaration (heading .struct naming))) state (Made called inner) :=
    gives_heading (by decide) naming []
  exact .ite (.after fun _ _ => .after fun _ _ => .after fun _ after => made after)
    (.ite (.after fun _ after => made after) (.after fun _ after => made after))

private theorem gives_enumerationItem : Gives (enumerationItem rules) state (Made called inner) :=
  .after fun _ _ => .after fun naming _ => .after fun _ _ => .after fun _ _ => .after fun _ _ =>
    gives_heading (by decide) naming []

private theorem gives_unionItem : Gives (unionItem rules) state (Made called inner) :=
  .after fun _ _ => .after fun naming _ => .after fun _ _ => .after fun _ _ => .after fun _ _ =>
    gives_heading (by decide) naming []

private theorem gives_traitItem : Gives (traitItem rules) state (Made called inner) := by
  refine .after fun _ _ => .after fun _ _ => .after fun _ _ => .after fun naming _ =>
    .after fun _ between => ?_
  have bounded (state : State) : Gives (do
      boundsUntil rules fun trees => atWord "where" trees || atMark ";" trees
      discard (conditions rules)
      mark ";"
      return .other []) state (Made called inner) :=
    .after fun _ _ => .after fun _ _ => .after fun _ _ => gives_other []
  have made (state : State) : Gives (do
      discard (conditions rules)
      return .declaration (heading .trait naming (← members rules (traitMember rules))))
      state (Made called inner) :=
    .after fun _ _ => .after fun attributes _ => gives_heading (by decide) naming attributes
  exact .after fun _ after => .ite (bounded after) <|
    .after fun _ after => .ite (.after fun _ after => made after) (made after)

theorem gives_items (each : ∀ state, Gives rules.item state inner) :
    Gives (items rules) state fun items => ∀ item ∈ items, inner item :=
  .collect fun _ => .after fun _ between => .ite (.pure nofun) <|
    (each between).bind fun item _ own => .pure (by simpa using own)

private theorem gives_moduleItem (each : ∀ state, Gives rules.item state inner) :
    Gives (moduleItem rules) state (Made called inner) := by
  have block (state : State) : Gives (do
      let attributes ← innerAttributes rules
      return (attributes, ← items rules)) state fun read => ∀ item ∈ read.2, inner item :=
    .after fun _ _ => (gives_items each).bind fun _ _ own => .pure own
  refine .after fun _ _ => .after fun _ _ => .after fun _ _ => .after fun naming _ =>
    .after fun _ _ => ?_
  exact .ite (gives_heading (by decide) naming []) <|
    (Gives.inside block .brace).bind fun _ _ own => .pure (.inlineModule nofun own)

private theorem gives_implementationItem (start : Position) (isVisible : Bool) :
    Gives (implementationItem rules start isVisible) state
      (Made (IsTypeAt (implementationParts rules) state) inner) :=
  .read fun parts after read => .pure <|
    .ite (.other parts.attributes) (.implementation ⟨parts, after, read, rfl⟩)

private theorem gives_macroDefinition : Gives macroDefinition state (Made called inner) := by
  refine .after fun _ _ => .after fun _ _ => .after fun _ between => ?_
  have ended (state : State) : Gives (do
      if ← peek (atGroup .brace) then discard anyGroup else fail
      return .other []) state (Made called inner) :=
    .after fun _ _ => .ite (.after fun _ _ => gives_other []) (.after fun _ _ => gives_other [])
  exact .ite (.after fun _ after => ended after) (ended between)

private theorem gives_macroItem : Gives macroItem state (Made called inner) := by
  refine .after fun _ _ => .after fun _ _ => .after fun _ between => ?_
  have ended (state : State) : Gives (do
      if !(← anyGroup) then mark ";"
      return .other []) state (Made called inner) :=
    .after fun _ _ => .ite (.after fun _ _ => gives_other []) (gives_other [])
  exact .ite (.after fun _ after => ended after) (ended between)

private theorem gives_failAfter (words : Nat) : Gives (failAfter words) state (Made called inner) :=
  .after fun _ _ => gives_fail

private theorem gives_externItem (start : Position) (isVisible : Bool) :
    Gives (externItem rules start isVisible) state (Made called inner) :=
  .after fun _ _ => .ite gives_crateItem <|
    .ite (gives_foreignItem start isVisible) (gives_failAfter _)

private theorem gives_unsafeItem (each : ∀ state, Gives rules.item state inner) (start : Position)
    (isVisible : Bool) (first : Position) :
    Gives (unsafeItem rules start isVisible first) state
      (Made (IsTypeAt (implementationParts rules) state) inner) :=
  .ahead fun _ => .ite gives_traitItem <| .ite (gives_implementationItem first isVisible) <|
    .ite (gives_foreignItem start isVisible) <| .ite (gives_moduleItem each) (gives_failAfter 1)

private theorem gives_itemBody (each : ∀ state, Gives rules.item state inner) (first : Position) :
    Gives (itemBody rules first) state
      (Made (IsTypeAt (do let _ ← visibility; implementationParts rules) state) inner) := by
  refine .place fun start => .read fun isVisible between read => .ahead fun trees => ?_
  refine Gives.imp ?_ fun item (own : Made (IsTypeAt (implementationParts rules) between) inner item) =>
    own.imp fun _ _ typed => .before read typed
  exact .ite gives_functionItem <| .ite (gives_externItem start isVisible) <| .ite gives_importItem <|
    .ite gives_staticItem <| .ite (gives_plain (by decide) _) <|
    .ite (gives_unsafeItem each start isVisible first) <| .ite (gives_moduleItem each) <|
    .ite (gives_plain (by decide) _) <| .ite gives_structureItem <| .ite gives_enumerationItem <|
    .ite gives_unionItem <| .ite gives_traitItem <| .ite (gives_implementationItem first isVisible) <|
    .ite gives_macroDefinition <| .ite gives_macroItem gives_fail

/-- However deep the rules recur, every implementation that is read is called by its type. -/
theorem gives_item (depth : Nat) :
    Gives (rulesWithin depth).item state (Every IsCalledByType) := by
  induction depth generalizing state with
  | zero => exact gives_fail
  | succ depth ih =>
    intro item after read
    have made : Gives (itemRule (rulesWithin depth)) state
        (Made (IsTypeAt (implementationRule (rulesWithin depth)) state) (Every IsCalledByType)) :=
      .place fun first => .read fun outer between read =>
        (gives_itemBody (fun _ => ih) first).bind fun item _ own =>
          .pure (own.withOuter outer fun _ typed => .before read typed)
    refine .made ((made item after read).imp fun heading same typed => ?_)
    subst same
    exact ⟨depth, state, after, read, typed⟩

end Made

end TermBind.Source.Grammar
