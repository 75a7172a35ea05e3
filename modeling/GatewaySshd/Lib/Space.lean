import GatewaySshd.Text

/-! # White space around a text

A text is a sequence of bytes in UTF-8. Its white space is trimmed by whole
characters: those of Latin-1 and the space separators beyond it.
-/
namespace GatewaySshd.Space
set_option autoImplicit false

def spaces : List Str :=
  [[9], [10], [11], [12], [13], [32], [0xc2, 0x85], [0xc2, 0xa0], [0xe1, 0x9a, 0x80],
    [0xe2, 0x80, 0x80], [0xe2, 0x80, 0x81], [0xe2, 0x80, 0x82], [0xe2, 0x80, 0x83],
    [0xe2, 0x80, 0x84], [0xe2, 0x80, 0x85], [0xe2, 0x80, 0x86], [0xe2, 0x80, 0x87],
    [0xe2, 0x80, 0x88], [0xe2, 0x80, 0x89], [0xe2, 0x80, 0x8a], [0xe2, 0x80, 0xa8],
    [0xe2, 0x80, 0xa9], [0xe2, 0x80, 0xaf], [0xe2, 0x81, 0x9f], [0xe3, 0x80, 0x80]]

/-- None of the given texts is empty, so as many rounds as there are bytes are enough. -/
def dropAll (texts : List Str) : Nat → Str → Str
  | 0, text => text
  | rounds + 1, text =>
    match texts.find? fun space => space.isPrefixOf text with
    | none => text
    | some space => dropAll texts rounds (text.drop space.length)

def trimLeft (text : Str) : Str := dropAll spaces text.length text

def trimRight (text : Str) : Str :=
  (dropAll (spaces.map List.reverse) text.length text.reverse).reverse

def trimSpace (text : Str) : Str := trimRight (trimLeft text)

example : trimSpace (ascii " \tbob\r\n") = ascii "bob" := by decide

end GatewaySshd.Space
