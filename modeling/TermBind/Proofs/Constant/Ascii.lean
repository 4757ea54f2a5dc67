import TermBind.Proofs.Constant.Identifier

/-! Constants of ASCII names. The letters and digits of a local name stay in their order as capitals, with
single underscores between its words, and a constant is its own constant. -/
namespace TermBind

section Joined

variable {α : Type} [DecidableEq α] {mark : α} {parts : List (List α)} {text : List α}

/-- Without the marks there are only the parts. -/
theorem Collection.filter_intercalate (free : ∀ part ∈ parts, mark ∉ part) :
    ([mark].intercalate parts).filter (· ≠ mark) = parts.flatten := by
  have kept : ∀ part ∈ parts, part.filter (· ≠ mark) = part := fun part listed =>
    List.filter_eq_self.mpr fun item member => decide_eq_true fun same => free part listed (same ▸ member)
  induction parts with
  | nil => rfl
  | cons first rest ih =>
    obtain ⟨unmarked, others⟩ := List.forall_mem_cons.mp free
    obtain ⟨own, later⟩ := List.forall_mem_cons.mp kept
    cases rest with
    | nil => simpa using own
    | cons second rest =>
      rw [List.intercalate_cons_cons, List.filter_append, List.filter_append, own, ih others later]
      simp

/-- Between the marks of a text there is something, and after the last one too. -/
def Collection.IsFilled (mark : α) (text : List α) : Prop := ∀ part ∈ text.splitOn mark, part ≠ []

theorem Collection.IsFilled.not_infix (filled : IsFilled mark text) : ¬ [mark, mark] <:+: text := by
  rintro ⟨before, after, whole⟩
  have twice : text = before ++ mark :: ([] ++ mark :: after) := by simpa using whole.symm
  refine filled [] ?_ rfl
  rw [twice, List.splitOn_append_cons_self, List.splitOn_append_cons_self]
  simp

theorem Collection.IsFilled.getLast?_ne (filled : IsFilled mark text) : text.getLast? ≠ some mark := by
  intro last
  obtain ⟨before, whole⟩ := List.getLast?_eq_some_iff.mp last
  refine filled [] ?_ rfl
  rw [whole, List.splitOn_append_cons_self]
  simp

theorem Collection.isFilled_intercalate (free : ∀ part ∈ parts, mark ∉ part)
    (filled : ∀ part ∈ parts, part ≠ []) (some : parts ≠ []) :
    IsFilled mark ([mark].intercalate parts) := by
  rw [IsFilled, List.splitOn_intercalate mark free some]
  exact filled

end Joined

namespace Constant

open Unicode

/-- What is neither letter nor digit ends a word. -/
theorem words_append {mark : Char} (cuts : isAlphanumeric mark = false) (before after : List Char) :
    words (before ++ mark :: after) = words before ++ words after := by
  rw [words, List.splitOnP_append_cons _ _ (by simpa using cuts), List.flatMap_append]
  rfl

/-- Letters of a word that is all in upper case begin no further word. -/
theorem splitCase_of_raised {word text : List Char} {mode : Mode} (filled : text ≠ [])
    (raised : ∀ c ∈ text, isLowercase c = false) (begun : mode ≠ .lower) :
    splitCase word mode text = [word ++ text] := by
  induction word, mode, text using splitCase.induct with
  | case1 => exact absurd rfl filled
  | case2 word mode only => rfl
  | case3 word mode first next rest lowered =>
    have own := raised first (by simp)
    refine absurd lowered.1 ?_
    rw [Mode.after, if_neg (by simp [own])]
    split <;> simp [begun]
  | case4 word mode first next rest unlowered cut =>
    rw [raised next (by simp)] at cut
    exact absurd cut.2.2 Bool.false_ne_true
  | case5 word mode first next rest unlowered uncut ih =>
    have own := raised first (by simp)
    have later : mode.after first ≠ .lower := by
      rw [Mode.after, if_neg (by simp [own])]
      split <;> simp [begun]
    rw [splitCase, if_neg unlowered, if_neg uncut,
      ih (by simp) (fun c member => raised c (List.mem_cons_of_mem _ member)) later]
    simp

/-- A word in upper case. -/
def IsRaisedWord (word : List Char) : Prop :=
  word ≠ [] ∧ ∀ c ∈ word, isAlphanumeric c = true ∧ isLowercase c = false

theorem words_of_isRaisedWord {word : List Char} (raised : IsRaisedWord word) : words word = [word] := by
  have whole : (word.splitOnP fun c => !isAlphanumeric c) = [word] := by
    exact List.splitOnP_eq_singleton fun c member => by simp [(raised.2 c member).1]
  have cut : splitCase [] .start word = [[] ++ word] :=
    splitCase_of_raised raised.1 (fun c member => (raised.2 c member).2) (by decide)
  rw [words, whole, List.flatMap_singleton, cut, List.nil_append]

/-- Words in upper case are found again where they are joined. -/
theorem words_intercalate {parts : List (List Char)} (raised : ∀ part ∈ parts, IsRaisedWord part) :
    words (['_'].intercalate parts) = parts := by
  induction parts with
  | nil => rfl
  | cons first rest ih =>
    obtain ⟨own, others⟩ := List.forall_mem_cons.mp raised
    cases rest with
    | nil => simpa using words_of_isRaisedWord own
    | cons second rest =>
      rw [List.intercalate_cons_cons, List.append_assoc, List.singleton_append,
        words_append (by decide), words_of_isRaisedWord own, ih others]
      rfl

theorem isAlphanumeric_of_ascii {c : Char} (low : c.toNat < 128) : isAlphanumeric c = c.isAlphanum := by
  simp only [isAlphanumeric, isAlphabetic, isNumeric, beyondAscii, if_pos low, Char.isAlphanum]

theorem upperCase_of_ascii {c : Char} (low : c.toNat < 128) : upperCase c = [c.toUpper] := by
  rw [upperCase, if_pos low]

/-- Of a capital or digit of ASCII: it is its own upper case, and can begin a constant. -/
structure IsBlockLetter (c : Char) : Prop where
  isAlphanumeric : isAlphanumeric c = true
  isLowercase : isLowercase c = false
  upperCase : upperCase c = [c]
  unmarked : c ≠ '_'
  begins : c.isDigit = true ∨ isAlphabetic c = true

theorem isBlockLetter_toUpper {c : Char} (low : c.toNat < 128) (lettered : c.isAlphanum = true) :
    IsBlockLetter c.toUpper ∧ c.toUpper.isDigit = c.isDigit := by
  have own : c.isAlphanum = true →
      (isAlphanumeric c.toUpper = true ∧ isLowercase c.toUpper = false ∧
        upperCase c.toUpper = [c.toUpper] ∧ c.toUpper ≠ '_' ∧
        (c.toUpper.isDigit = true ∨ isAlphabetic c.toUpper = true)) ∧
      c.toUpper.isDigit = c.isDigit := by
    apply forall_ascii c low
    decide +kernel
  obtain ⟨⟨alphanumeric, raised, fixed, unmarked, begins⟩, digit⟩ := own lettered
  exact ⟨⟨alphanumeric, raised, fixed, unmarked, begins⟩, digit⟩

section Ascii

variable {name : List Char} (ascii : ∀ c ∈ name, c.toNat < 128)
include ascii

theorem filter_isAlphanumeric : name.filter isAlphanumeric = name.filter Char.isAlphanum :=
  List.filter_congr fun c known => isAlphanumeric_of_ascii (ascii c known)

theorem isBlockLetter_of_mem_raised {part : List Char} {d : Char}
    (listed : part ∈ (words name).map fun word => word.flatMap upperCase) (member : d ∈ part) :
    IsBlockLetter d := by
  obtain ⟨word, known, rfl⟩ := List.mem_map.mp listed
  obtain ⟨c, own, raised⟩ := List.mem_flatMap.mp member
  obtain ⟨written, lettered⟩ := mem_words.mp ⟨word, known, own⟩
  have low := ascii c written
  rw [isAlphanumeric_of_ascii low] at lettered
  rw [upperCase_of_ascii low, List.mem_singleton] at raised
  exact raised ▸ (isBlockLetter_toUpper low lettered).1

/-- The words of a constant are words in upper case, and their own upper case. -/
theorem isRaisedWord_of_mem {part : List Char}
    (listed : part ∈ (words name).map fun word => word.flatMap upperCase) :
    IsRaisedWord part ∧ '_' ∉ part ∧ part.flatMap upperCase = part := by
  have each := fun (d : Char) (member : d ∈ part) => isBlockLetter_of_mem_raised ascii listed member
  have filled : part ≠ [] := by
    obtain ⟨word, known, rfl⟩ := List.mem_map.mp listed
    obtain ⟨c, rest, rfl⟩ := List.exists_cons_of_ne_nil (ne_nil_of_mem_words known)
    simp [(isRaised_upperCase c).ne_nil]
  have fixed := List.map_congr_left fun d member => (each d member).upperCase
  refine ⟨⟨filled, fun d member => ⟨(each d member).isAlphanumeric, (each d member).isLowercase⟩⟩,
    fun member => (each '_' member).unmarked rfl, ?_⟩
  rw [List.flatMap_def, fixed, ← List.flatMap_def, List.flatMap_singleton']

/-- Without its underscores a constant is made of the letters and digits of the name. -/
theorem filter_shout : (shout name).filter (· ≠ '_') = (name.filter Char.isAlphanum).map Char.toUpper := by
  have raised : ∀ c ∈ name.filter Char.isAlphanum, upperCase c = [c.toUpper] := fun c member =>
    upperCase_of_ascii (ascii c (List.mem_filter.mp member).1)
  have joined : ((words name).map fun word => word.flatMap upperCase).flatten =
      (words name).flatten.flatMap upperCase := by
    simp [List.flatMap_def, List.map_flatten, List.flatten_flatten, Function.comp_def]
  rw [shout, Collection.filter_intercalate fun part listed => (isRaisedWord_of_mem ascii listed).2.1,
    joined, flatten_words, filter_isAlphanumeric ascii, List.flatMap_def, List.map_congr_left raised,
    ← List.flatMap_def, ← List.map_eq_flatMap]

theorem shout_shout : shout (shout name) = shout name := by
  have found : words (shout name) = (words name).map fun word => word.flatMap upperCase :=
    words_intercalate fun part listed => (isRaisedWord_of_mem ascii listed).1
  have fixed : ∀ part ∈ (words name).map (fun word => word.flatMap upperCase),
      part.flatMap upperCase = part := fun part listed => (isRaisedWord_of_mem ascii listed).2.2
  rw [shout, found, List.map_congr_left fixed, List.map_id']
  rfl

theorem isFilled_shout (some : shout name ≠ []) : Collection.IsFilled '_' (shout name) := by
  refine Collection.isFilled_intercalate (fun part listed => (isRaisedWord_of_mem ascii listed).2.1)
    (fun part listed => (isRaisedWord_of_mem ascii listed).1.1) fun none => some ?_
  rw [shout, none]
  rfl

/-- A constant begins with the first letter or digit of the name, in upper case. -/
theorem head?_shout_ascii :
    (shout name).head? = (name.find? Char.isAlphanum).map Char.toUpper := by
  rw [head?_shout, ← List.head?_filter, ← List.head?_filter, filter_isAlphanumeric ascii]
  cases lettered : name.filter Char.isAlphanum with
  | nil => rfl
  | cons first rest =>
    have known : first ∈ name.filter Char.isAlphanum := by simp [lettered]
    simp [upperCase_of_ascii (ascii first (List.mem_filter.mp known).1)]

theorem exists_first {d : Char} {rest : List Char} (shouted : shout name = d :: rest) :
    ∃ first ∈ name.find? Char.isAlphanum, d.isDigit = first.isDigit ∧ IsBlockLetter d := by
  have head := head?_shout_ascii ascii
  rw [shouted, List.head?_cons, eq_comm, Option.map_eq_some_iff] at head
  obtain ⟨first, found, rfl⟩ := head
  have block := isBlockLetter_toUpper (ascii first (List.mem_of_find?_eq_some found))
    (List.find?_some found)
  exact ⟨first, found, block.2, block.1⟩

end Ascii

/-- An underscore in front begins no word. -/
theorem shout_mark (name : List Char) : shout ('_' :: name) = shout name := by
  have cut : words ([] ++ '_' :: name) = words [] ++ words name := words_append (by decide) [] name
  rw [shout, ← List.nil_append ('_' :: name), cut]
  rfl

theorem ofLocal?_congr {left right : String} (same : shout left.toList = shout right.toList) :
    ofLocal? left = ofLocal? right := by
  rw [ofLocal?, ofLocal?, same]

/-- A name has a constant just if there is a letter or digit in it. -/
theorem ofLocal?_eq_none_iff {localName : String} (ascii : ∀ c ∈ localName.toList, c.toNat < 128) :
    ofLocal? localName = none ↔ ∀ c ∈ localName.toList, c.isAlphanum = false := by
  have letterless : (∀ c ∈ localName.toList, c.isAlphanum = false) ↔ shout localName.toList = [] := by
    rw [← List.head?_eq_none_iff, head?_shout_ascii ascii, Option.map_eq_none_iff, List.find?_eq_none]
    simp
  rw [letterless, ofLocal?]
  cases shouted : shout localName.toList with
  | nil => simp
  | cons d rest =>
    obtain ⟨_, _, _, block⟩ := exists_first ascii shouted
    refine iff_of_false ?_ (List.cons_ne_nil d rest)
    rcases block.begins with digit | letter
    · simp [digit]
    · by_cases digit : d.isDigit = true <;> simp [digit, letter]

/-- How a constant is spelled after a local name: with its letters and digits as capitals, an underscore
in front of a digit, and single underscores within; a name so spelled is kept as it is. -/
structure IsSpelledAfter (localName name : String) : Prop where
  letters : name.toList.filter (· ≠ '_') = (localName.toList.filter Char.isAlphanum).map Char.toUpper
  marked : name.toList.head? = some '_' ↔
    ∃ first ∈ localName.toList.find? Char.isAlphanum, first.isDigit = true
  apart : ¬ ['_', '_'] <:+: name.toList
  closed : name.toList.getLast? ≠ some '_'
  kept : ofLocal? name = some name

theorem isSpelledAfter_of_ofLocal? {localName name : String}
    (ascii : ∀ c ∈ localName.toList, c.toNat < 128) (known : ofLocal? localName = some name) :
    IsSpelledAfter localName name := by
  obtain ⟨d, rest, shouted, spelled⟩ := ofLocal?_cases known
  obtain ⟨first, found, digit, block⟩ := exists_first ascii shouted
  have filled := isFilled_shout ascii (by simp [shouted])
  have letters := filter_shout ascii
  have again := shout_shout ascii
  rw [shouted] at filled letters again
  have begins : (∃ first ∈ localName.toList.find? Char.isAlphanum, first.isDigit = true) ↔
      d.isDigit = true := by
    rw [digit, Option.mem_def.mp found]
    simp
  rw [← shouted] at again
  rcases spelled with ⟨isDigit, spelled⟩ | ⟨isLetter, spelled⟩
  · refine ⟨?_, ?_, ?_, ?_, ?_⟩
    · rw [spelled, ← letters]
      rfl
    · rw [begins, spelled]
      exact iff_of_true rfl isDigit
    · rw [spelled]
      intro twice
      rcases List.infix_cons_iff.mp twice with front | later
      · have second : '_' = d := by simpa using (List.cons_prefix_cons.mp front).2
        exact block.unmarked second.symm
      · exact filled.not_infix later
    · rw [spelled, List.getLast?_cons_cons]
      exact filled.getLast?_ne
    · rw [← known]
      refine ofLocal?_congr ?_
      rw [spelled, shout_mark, ← shouted, again]
  · refine ⟨?_, ?_, ?_, ?_, ?_⟩
    · rw [spelled, letters]
    · rw [begins, spelled, isLetter]
      simpa using block.unmarked
    · rw [spelled]
      exact filled.not_infix
    · rw [spelled]
      exact filled.getLast?_ne
    · rw [← known]
      refine ofLocal?_congr ?_
      rw [spelled, ← shouted, again]

/-- A name of ASCII has a constant just if there is a letter or digit in it, and the constant neither loses
nor invents any. -/
theorem ofLocal?_ascii {localName : String} (ascii : ∀ c ∈ localName.toList, c.toNat < 128) :
    (ofLocal? localName = none ↔ ∀ c ∈ localName.toList, c.isAlphanum = false) ∧
      ∀ name, ofLocal? localName = some name → IsSpelledAfter localName name :=
  ⟨ofLocal?_eq_none_iff ascii, fun _ known => isSpelledAfter_of_ofLocal? ascii known⟩

/-- Words end at punctuation, before the last capital of a run and before a capital after small letters. -/
theorem ofLocal?_ascii_version :
    (∀ c ∈ "2.x-HTTPVersionB1".toList, c.toNat < 128) ∧
      ofLocal? "2.x-HTTPVersionB1" = some "_2_X_HTTP_VERSION_B1" ∧
      IsSpelledAfter "2.x-HTTPVersionB1" "_2_X_HTTP_VERSION_B1" ∧
      ofLocal? "-.-" = none := by
  have ascii : ∀ c ∈ "2.x-HTTPVersionB1".toList, c.toNat < 128 := by simp
  have marks : ∀ c ∈ "-.-".toList, c.toNat < 128 := by simp
  have known : ofLocal? "2.x-HTTPVersionB1" = some "_2_X_HTTP_VERSION_B1" := by decide +kernel
  exact ⟨ascii, known, (ofLocal?_ascii ascii).2 _ known, (ofLocal?_ascii marks).1.mpr (by simp [Char.isAlphanum])⟩

end Constant
end TermBind
