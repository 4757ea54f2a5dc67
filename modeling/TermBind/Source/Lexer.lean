import TermBind.Source.Literal
import TermBind.Text.Quoted
import TermBind.Text.Unicode.Letter

/-! Reading a source text into token trees. -/
namespace TermBind.Source

/-- One step of reading: a finished token, a side of a group, or the place of a fault. -/
inductive Lexeme where
  | leaf (tree : Tree)
  | opening (delimiter : Delimiter) (place : Position)
  | closing (delimiter : Delimiter) (place : Position)
  | fault (place : Position)
deriving Repr

namespace Lexer

private def startsWith (mark : String) (text : List Char) : Bool := mark.toList.isPrefixOf text

def isBlank (c : Char) : Bool :=
  Unicode.isWhitespace c || c.toNat == 0x200e || c.toNat == 0x200f

/-- A block comment from its opening on; comments nest. -/
private def blockComment? (depth : Nat) (taken : List Char) : List Char → Option Taken
  | '/' :: '*' :: rest => blockComment? (depth + 1) ('*' :: '/' :: taken) rest
  | '*' :: '/' :: rest =>
    if depth ≤ 1 then some ('/' :: '*' :: taken, rest)
    else blockComment? (depth - 1) ('/' :: '*' :: taken) rest
  | c :: rest => blockComment? depth (c :: taken) rest
  | [] => none

private def isLineComment (text : List Char) : Bool :=
  startsWith "//" text && (!startsWith "///" text || startsWith "////" text) &&
    !startsWith "//!" text

private def isBlockComment (text : List Char) : Bool :=
  startsWith "/**/" text ||
    (startsWith "/*" text && (!startsWith "/**" text || startsWith "/***" text) &&
      !startsWith "/*!" text)

/-- The blanks and comments that a text begins with. -/
def skip (fuel : Nat) (taken text : List Char) : Taken :=
  match fuel with
  | 0 => (taken, text)
  | fuel + 1 =>
    if isLineComment text then
      let (taken, rest) := takeOn (· ≠ '\n') taken text
      skip fuel taken rest
    else if startsWith "/**/" text then skip fuel ("/**/".toList.reverse ++ taken) (text.drop 4)
    else if isBlockComment text then
      match blockComment? 0 taken text with
      | some (taken, rest) => skip fuel taken rest
      | none => (taken, text)
    else
      match text with
      | c :: rest => if isBlank c then skip fuel (c :: taken) rest else (taken, text)
      | [] => (taken, text)

/-- The text after the blanks and comments that it begins with. -/
def afterBlanks (text : List Char) : List Char := (skip (text.length + 1) [] text).2

/-- The text of a documentation comment, whether it is an inner one, and how far it reaches. -/
def docComment? (text : List Char) : Option (List Char × Bool × Taken) :=
  let line := fun (isInner : Bool) (rest : List Char) =>
    let read := takeOn (· ≠ '\n') [] rest
    let content := match read.1, read.2 with
      | '\r' :: before, _ :: _ => before
      | taken, _ => taken
    (content.reverse, isInner, (read.1 ++ (text.take 3).reverse, read.2))
  let block := fun (isInner : Bool) =>
    (blockComment? 0 [] text).map fun read =>
      (((read.1.reverse.drop 3).reverse.drop 2).reverse, isInner, read)
  if startsWith "//!" text then some (line true (text.drop 3))
  else if startsWith "/*!" text then block true
  else if startsWith "////" text then none
  else if startsWith "///" text then some (line false (text.drop 3))
  else if startsWith "/**" text && !startsWith "/***" text then block false
  else none

/-- A carriage return stands only before a line feed. -/
private def returnsPaired : List Char → Bool
  | [] => true
  | '\r' :: rest => rest.head? == some '\n' && returnsPaired rest
  | _ :: rest => returnsPaired rest

private def docWord : Word :=
  ⟨"doc", Or.inl (by decide +kernel)⟩

/-- A documentation comment is an attribute that holds its text. -/
private def docTrees (content : List Char) (isInner : Bool) (place : Position) : List Tree :=
  let holder := Tree.group .bracket
    [.word docWord place, .punct '=' false place,
      .literal (Quoted.encode (String.ofList content)) place] place place
  .punct '#' false place :: (if isInner then [.punct '!' false place] else []) ++ [holder]

private def isPunctChar (c : Char) : Bool := "~!@#$%^&*-=+|;:,<.>/?'".toList.contains c

private def punctChar? (text : List Char) : Option Char :=
  if startsWith "//" text || startsWith "/*" text then none
  else text.head?.filter isPunctChar

/-- An identifier, which the words of paths may not be when it is raw. -/
private def identifier? (text : List Char) : Option Taken :=
  match text with
  | 'r' :: '#' :: rest =>
    match plainIdentifier? [] rest with
    | some (taken, rest) =>
      if ["_", "super", "self", "Self", "crate"].contains (String.ofList taken.reverse) then none
      else some (taken ++ ['#', 'r'], rest)
    | none => none
  | text => plainIdentifier? [] text

private theorem isWord_of_identifier? {text : List Char} {read : Taken}
    (found : identifier? text = some read) : IsWord (String.ofList read.1.reverse) := by
  unfold identifier? at found
  split at found
  · split at found
    · rename_i taken after plain
      split at found
      · cases found
      · cases found
        have isPlain := isPlain_of_plainIdentifier? plain
        exact Or.inr ⟨taken.reverse, by simp, isPlain⟩
    · cases found
  · exact Or.inl (by simpa using isPlain_of_plainIdentifier? found)

private def quotePrefixes : List String :=
  ["r\"", "r#\"", "r##", "b\"", "b'", "br\"", "br#", "c\"", "cr\"", "cr#"]

/-- A word, and how far it reaches. -/
private def word? (text : List Char) : Option (Word × Taken) :=
  if quotePrefixes.any fun mark => startsWith mark text then none
  else
    match found : identifier? text with
    | some read => some (⟨String.ofList read.1.reverse, isWord_of_identifier? found⟩, read)
    | none => none

/-- Whether the text after an apostrophe is the name of a lifetime. -/
private def isLifetime (text : List Char) : Bool :=
  match identifier? text with
  | some (_, after) =>
    after.head? != some '\'' && (after.head? != some '#' || startsWith "r#" text)
  | none => false

def leaf? (place : Position) (text : List Char) : Option (Tree × Taken) :=
  match literal? text with
  | some read => some (.literal (String.ofList read.1.reverse) place, read)
  | none =>
    match punctChar? text with
    | some c =>
      let rest := text.drop 1
      if c = '\'' then
        if isLifetime rest then some (.punct c true place, ([c], rest))
        else none
      else some (.punct c (punctChar? rest).isSome place, ([c], rest))
    | none => (word? text).map fun read => (.word read.1 place, read.2)

/-- The lexemes of a text; nothing follows a fault. Those read already come reversed. -/
def lexemesFrom (fuel : Nat) (read : List Lexeme) (place : Position) (text : List Char) :
    List Lexeme :=
  match fuel with
  | 0 => (.fault place :: read).reverse
  | fuel + 1 =>
    let (blanks, text) := skip (fuel + 1) [] text
    let place := place.afterAll blanks.reverse
    match docComment? text with
    | some (content, isInner, taken, rest) =>
      if returnsPaired content then
        lexemesFrom fuel (((docTrees content isInner place).map .leaf).reverse ++ read)
          (place.afterAll taken.reverse) rest
      else (.fault place :: read).reverse
    | none =>
      match text with
      | [] => read.reverse
      | c :: rest =>
        match Delimiter.ofOpening? c, Delimiter.ofClosing? c with
        | some delimiter, _ => lexemesFrom fuel (.opening delimiter place :: read) (place.after c) rest
        | _, some delimiter => lexemesFrom fuel (.closing delimiter place :: read) (place.after c) rest
        | none, none =>
          match leaf? place text with
          | some (tree, taken, rest) =>
            lexemesFrom fuel (.leaf tree :: read) (place.afterAll taken.reverse) rest
          | none => (.fault place :: read).reverse

def lexemes (place : Position) (text : List Char) : List Lexeme :=
  lexemesFrom (text.length + 1) [] place text

/-- A group that has been opened, with the trees before it, the latest first. -/
structure Frame where
  delimiter : Delimiter
  opening : Position
  before : List Tree

/-- Build trees from lexemes; a fault is the place of a lexeme that fits nowhere. -/
def assemble (stack : List Frame) (trees : List Tree) : List Lexeme → Except Position (List Tree)
  | [] =>
    match stack with
    | [] => .ok trees.reverse
    | frame :: _ => .error frame.opening
  | .leaf tree :: rest => assemble stack (tree :: trees) rest
  | .opening delimiter place :: rest => assemble (⟨delimiter, place, trees⟩ :: stack) [] rest
  | .closing delimiter place :: rest =>
    match stack with
    | [] => .error place
    | frame :: below =>
      if frame.delimiter = delimiter then
        assemble below (.group delimiter trees.reverse frame.opening place :: frame.before) rest
      else .error place
  | .fault place :: _ => .error place

section Slashless

variable {text : List Char}

private theorem startsWith_slash (slashless : '/' ∉ text) {mark : String}
    (slash : mark.toList.head? = some '/') : startsWith mark text = false := by
  rw [startsWith, Bool.eq_false_iff, ne_eq, List.isPrefixOf_iff_prefix]
  rintro ⟨rest, rfl⟩
  exact slashless (List.mem_append_left rest (List.mem_of_head? slash))

private theorem isComment_eq_false (slashless : '/' ∉ text) :
    isLineComment text = false ∧ isBlockComment text = false := by
  simp (disch := decide) [isLineComment, isBlockComment, startsWith_slash slashless]

theorem skip_of_slashless (slashless : '/' ∉ text) {fuel : Nat} (enough : text.length ≤ fuel)
    (taken : List Char) :
    skip fuel taken text = ((text.takeWhile isBlank).reverse ++ taken, text.dropWhile isBlank) := by
  induction text generalizing fuel taken with
  | nil =>
    cases fuel with
    | zero => rfl
    | succ fuel => rfl
  | cons c rest ih =>
    obtain ⟨fuel, rfl⟩ := Nat.exists_eq_add_of_le' (Nat.le_trans (Nat.le_add_left 1 _) enough)
    have later := ih (fun member => slashless (List.mem_cons_of_mem c member))
      (Nat.le_of_succ_le_succ enough) (c :: taken)
    rw [skip]
    have unclosed : startsWith "/**/" (c :: rest) = false := startsWith_slash slashless rfl
    simp only [isComment_eq_false slashless, unclosed, Bool.false_eq_true, if_false]
    split
    · rename_i blank
      rw [later]
      simp [blank]
    · rename_i other
      simp [other]

theorem docComment?_of_slashless (slashless : '/' ∉ text) : docComment? text = none := by
  simp (disch := decide) [docComment?, startsWith_slash slashless]

end Slashless

/-- How a word is written: without a mark, or with the mark of a raw identifier unless it is one of the
words of paths. -/
def IsWritten (text : List Char) : Prop :=
  IsPlain text ∨ ∃ plain, text = 'r' :: '#' :: plain ∧ IsPlain plain ∧
    String.ofList plain ∉ ["_", "super", "self", "Self", "crate"]

private theorem isWritten_of_identifier? {text : List Char} {read : Taken}
    (found : identifier? text = some read) :
    read.1.reverse ++ read.2 = text ∧ IsWritten read.1.reverse := by
  unfold identifier? at found
  split at found
  · split at found
    · rename_i taken after plain
      split at found
      · cases found
      · rename_i free
        cases found
        have spelled := plainIdentifier?_append plain
        refine ⟨by simpa using spelled, Or.inr ⟨taken.reverse, by simp, ?_, by simpa using free⟩⟩
        exact isPlain_of_plainIdentifier? plain
    · cases found
  · exact ⟨plainIdentifier?_append found, Or.inl (isPlain_of_plainIdentifier? found)⟩

/-- A word is a token as far as it is taken. -/
theorem isWritten_of_leaf? {text rest taken : List Char} {place own : Position} {word : Word}
    (found : leaf? place text = some (.word word own, taken, rest)) :
    word.text.toList ++ rest = text ∧ IsWritten word.text.toList := by
  unfold leaf? at found
  split at found
  · cases found
  split at found
  · dsimp only at found
    split at found
    · split at found <;> cases found
    · cases found
  obtain ⟨⟨word', read⟩, known, same⟩ := Option.map_eq_some_iff.mp found
  cases same
  unfold word? at known
  split at known
  · cases known
  split at known
  · rename_i read named
    cases known
    simpa using isWritten_of_identifier? named
  · cases known

/-- The characters that a text has of marks and quotations are none. -/
structure IsBare (text : List Char) : Prop where
  hashless : '#' ∉ text
  unquoted : '"' ∉ text
  unmarked : '\'' ∉ text

theorem IsBare.append {left right : List Char} (bare : IsBare left) (bare' : IsBare right) :
    IsBare (left ++ right) where
  hashless := by simp [bare.hashless, bare'.hashless]
  unquoted := by simp [bare.unquoted, bare'.unquoted]
  unmarked := by simp [bare.unmarked, bare'.unmarked]

theorem isBare_of_isPlain {plain : List Char} (isPlain : IsPlain plain) : IsBare plain where
  hashless := not_mem_of_isPlain (by decide) (by decide) isPlain
  unquoted := not_mem_of_isPlain (by decide) (by decide) isPlain
  unmarked := not_mem_of_isPlain (by decide) (by decide) isPlain

/-- What may begin an identifier begins no number and is no punctuation. -/
private theorem isDigit_of_start {c : Char} (start : isIdentifierStart c = true) :
    c.isDigit = false ∧ isPunctChar c = false := by
  have digits : ∀ code < 58, 48 ≤ code → isIdentifierStart (Char.ofNat code) = false := by decide
  have marks : ("~!@#$%^&*-=+|;:,<.>/?'".toList.all fun c => !isIdentifierStart c) = true := by decide
  constructor
  · refine Bool.eq_false_iff.mpr fun digit => ?_
    simp only [Char.isDigit, Bool.and_eq_true, decide_eq_true_eq, UInt32.le_iff_toNat_le] at digit
    have own := digits c.toNat (Nat.lt_succ_of_le digit.2) digit.1
    rw [Char.ofNat_toNat, start] at own
    cases own
  · refine Bool.eq_false_iff.mpr fun mark => ?_
    have own := List.all_eq_true.mp marks c (List.contains_iff_mem.mp mark)
    rw [start] at own
    cases own

theorem exists_start_of_isWritten {written : List Char} (isWritten : IsWritten written) :
    ∃ c others, written = c :: others ∧ isIdentifierStart c = true := by
  rcases isWritten with isPlain | ⟨plain, rfl, _⟩
  · cases written with
    | nil => exact isPlain.elim
    | cons c others => exact ⟨c, others, rfl, isPlain.1⟩
  · exact ⟨'r', '#' :: plain, rfl, by decide⟩

theorem not_mem_of_isWritten {mark : Char} (unstarted : isIdentifierStart mark = false)
    (unheld : isIdentifierRest mark = false) (other : mark ≠ '#') {written : List Char}
    (isWritten : IsWritten written) : mark ∉ written := by
  rcases isWritten with isPlain | ⟨plain, rfl, isPlain, _⟩
  · exact not_mem_of_isPlain unstarted unheld isPlain
  · have letter : mark ≠ 'r' := by
      rintro rfl
      revert unheld
      decide
    simp [letter, other, not_mem_of_isPlain unstarted unheld isPlain]

section Written

variable {written rest : List Char} (isWritten : IsWritten written)
  (apart : ∀ c ∈ rest.head?, isIdentifierRest c = false) (bare : IsBare rest)
include isWritten bare

include apart in
/-- A plain word and a bare text have no hash, so they do not begin like a raw identifier. -/
private theorem identifier?_of_isWritten :
    identifier? (written ++ rest) = some (written.reverse, rest) := by
  rcases isWritten with isPlain | ⟨plain, rfl, isPlain, free⟩
  · have hashless := ((isBare_of_isPlain isPlain).append bare).hashless
    unfold identifier?
    split
    · rename_i others spelled
      exact absurd (spelled ▸ by simp) hashless
    · exact plainIdentifier?_of_isPlain isPlain apart
  · have read := plainIdentifier?_of_isPlain isPlain apart
    simp only [List.mem_cons, List.not_mem_nil, or_false, not_or] at free
    simp [identifier?, read, free]

/-- Written words and bare texts have no quotation marks. -/
private theorem unquoted_of_isWritten : '"' ∉ written ++ rest ∧ '\'' ∉ written ++ rest := by
  have unquoted : '"' ∉ written := not_mem_of_isWritten (by decide) (by decide) (by decide) isWritten
  have unmarked : '\'' ∉ written := not_mem_of_isWritten (by decide) (by decide) (by decide) isWritten
  simp [unquoted, unmarked, bare.unquoted, bare.unmarked]

/-- Each beginning of a quotation has a hash or a quotation mark, and a raw identifier does not begin
like one. -/
private theorem startsWith_of_isWritten :
    (quotePrefixes.any fun mark => startsWith mark (written ++ rest)) = false := by
  rcases isWritten with isPlain | ⟨plain, rfl, isPlain, free⟩
  · have hashless := ((isBare_of_isPlain isPlain).append bare).hashless
    have ⟨unquoted, unmarked⟩ := unquoted_of_isWritten (Or.inl isPlain) bare
    have each : ∀ mark ∈ quotePrefixes,
        '#' ∈ mark.toList ∨ '"' ∈ mark.toList ∨ '\'' ∈ mark.toList := by decide
    refine List.any_eq_false.mpr fun mark member => ?_
    rw [startsWith, List.isPrefixOf_iff_prefix]
    intro leads
    rcases each mark member with hash | quote | quote
    · exact hashless (leads.mem hash)
    · exact unquoted (leads.mem quote)
    · exact unmarked (leads.mem quote)
  · cases plain with
    | nil => exact isPlain.elim
    | cons c others =>
      have hashless : c ≠ '#' := fun same => (isBare_of_isPlain isPlain).hashless (by simp [same])
      have unquoted : c ≠ '"' := fun same => (isBare_of_isPlain isPlain).unquoted (by simp [same])
      simp [quotePrefixes, startsWith, List.isPrefixOf, hashless.symm, unquoted.symm]

include apart in
private theorem word?_of_isWritten :
    ∃ word, word.text = String.ofList written ∧
      word? (written ++ rest) = some (word, written.reverse, rest) := by
  have named := identifier?_of_isWritten isWritten apart bare
  unfold word?
  rw [startsWith_of_isWritten isWritten bare]
  split
  · rename_i unprefixed
    cases unprefixed
  split
  · rename_i read found
    cases named.symm.trans found
    exact ⟨_, by simp, rfl⟩
  · rename_i unread
    rw [named] at unread
    cases unread

include apart in
/-- A word that nothing goes on is one token. -/
theorem leaf?_of_isWritten (place : Position) :
    ∃ word, word.text = String.ofList written ∧
      leaf? place (written ++ rest) = some (.word word place, written.reverse, rest) := by
  obtain ⟨c, others, leads, start⟩ := exists_start_of_isWritten isWritten
  obtain ⟨word, spelled, found⟩ := word?_of_isWritten isWritten apart bare
  obtain ⟨unquoted, unmarked⟩ := unquoted_of_isWritten isWritten bare
  have head : (written ++ rest).head? = some c := by simp [leads]
  have unread : literal? (written ++ rest) = none := by
    refine literal?_eq_none ?_ unquoted unmarked
    rw [head]
    rintro _ ⟨⟩
    exact (isDigit_of_start start).1
  have unpunctuated : punctChar? (written ++ rest) = none := by
    simp [punctChar?, head, (isDigit_of_start start).2]
  refine ⟨word, spelled, ?_⟩
  rw [leaf?, unread, unpunctuated, found]
  rfl

end Written

end Lexer

/-- The token trees of a text, or the place where it stops being tokens. A byte order mark in front
is left out but counts as a column. -/
def trees (text : List Char) : Except Position (List Tree) :=
  match text with
  | '\ufeff' :: rest => Lexer.assemble [] [] (Lexer.lexemes ⟨1, 2⟩ rest)
  | text => Lexer.assemble [] [] (Lexer.lexemes {} text)

end TermBind.Source
