/-! Well-formed language tags. -/
namespace TermBind.Turtle.LanguageTag

/-- How far into a tag a subtag stands. -/
inductive Stage where
  | language
  | extendedLanguage (count : Nat)
  | script
  | region
  | variant
  | extensionMark
  | extension
  | privateMark
  | privateUse
deriving DecidableEq, Repr

/-- Tags registered before the present rules, in lower case. -/
def grandfathered : List String :=
  ["art-lojban", "cel-gaulish", "en-gb-oed", "i-ami", "i-bnn", "i-default", "i-enochian", "i-hak",
    "i-klingon", "i-lux", "i-mingo", "i-navajo", "i-pwn", "i-tao", "i-tay", "i-tsu", "no-bok",
    "no-nyn", "sgn-be-fr", "sgn-be-nl", "sgn-ch-de", "zh-guoyu", "zh-hakka", "zh-min", "zh-min-nan",
    "zh-xiang"]

private def isVariant (subtag : List Char) : Bool :=
  let lengthNeeded := if subtag.head?.any Char.isDigit then 4 else 5
  lengthNeeded ≤ subtag.length && subtag.all Char.isAlphanum

/-- The stage after one more subtag, or nothing if it may not stand there. -/
def Stage.next (stage : Stage) (subtag : List Char) : Option Stage :=
  let length := subtag.length
  let letters := subtag.all Char.isAlpha
  let beforeScript := match stage with
    | .language | .extendedLanguage _ => true
    | _ => false
  if length == 0 || 8 < length then none
  else if !subtag.all Char.isAlphanum then none
  else if stage == .privateMark || stage == .privateUse then some .privateUse
  else if length == 1 then
    if stage == .extensionMark then none
    else if subtag == ['x'] then some .privateMark
    else some .extensionMark
  else if stage == .extensionMark || stage == .extension then some .extension
  else
    match stage with
    | .extendedLanguage count =>
      if letters && length == 3 then
        if count < 3 then some (.extendedLanguage (count + 1)) else none
      else afterLanguage letters length beforeScript
    | _ => afterLanguage letters length beforeScript
where
  afterLanguage (letters : Bool) (length : Nat) (beforeScript : Bool) : Option Stage :=
    if beforeScript && letters && length == 4 then some .script
    else if (beforeScript || stage == .script) &&
        ((letters && length == 2) || (subtag.all Char.isDigit && length == 3)) then some .region
    else if isVariant subtag then some .variant
    else none

private def isPrimary (subtag : List Char) : Bool :=
  2 ≤ subtag.length && subtag.length ≤ 8 && subtag.all Char.isAlpha

/-- Whether a tag, given in lower case, is well formed. -/
def isWellFormed (tag : String) : Bool :=
  grandfathered.contains tag ||
    match tag.toList.splitOn '-' with
    | [] => false
    | ['x'] :: rest => !rest.isEmpty && rest.all fun subtag => subtag.all Char.isAlphanum
    | primary :: rest =>
      let stage := if primary.length < 4 then Stage.extendedLanguage 0 else .language
      isPrimary primary &&
        match rest.foldlM Stage.next stage with
        | some .extensionMark | some .privateMark | none => false
        | some _ => true

end TermBind.Turtle.LanguageTag
