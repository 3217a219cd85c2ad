/-! # What the decoders say

A text that cannot be decoded is answered with a sentence of the decoder about it.  The sentences
are those of the decoders at hand; here each is some function of the text. -/

namespace Walkthrough

/-- What the decoders say about the texts that they cannot decode. -/
structure Wording where
  /-- about a line that is no request -/
  request : List Char → String
  /-- about a document without settings -/
  settings : String → String

end Walkthrough
