/-! What is said of texts that cannot be read. -/
namespace TermBind

/-- What the readers of schema documents and of source files say of a text that they cannot read.
The words are the readers' own: they follow from the text, and no more is known of them. -/
class Wording where
  ofDocument : String → String
  ofSource : String → String

namespace Wording

/-- The same words for every text. -/
scoped instance brief : Wording where
  ofDocument _ := "not a well-formed document"
  ofSource _ := "unexpected token"

end Wording
end TermBind
