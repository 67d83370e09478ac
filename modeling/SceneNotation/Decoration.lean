import SceneNotation.Bindings

/- Pairs of markers that can be put around dialogue, and the four that there are a
   short and a long name for. -/
namespace SceneNotation

structure Decoration where
  name : Text
  opening : Text
  closing : Text
  deriving DecidableEq, Repr

namespace Decoration

def bold : Decoration := ⟨"bold".toList, "\x7bb\x7d".toList, "\x7b/b\x7d".toList⟩

def italic : Decoration := ⟨"italic".toList, "\x7bi\x7d".toList, "\x7b/i\x7d".toList⟩

def strikethrough : Decoration := ⟨"strikethrough".toList, "\x7bs\x7d".toList, "\x7b/s\x7d".toList⟩

def underline : Decoration := ⟨"underline".toList, "\x7bu\x7d".toList, "\x7b/u\x7d".toList⟩

def all : List Decoration := [bold, italic, strikethrough, underline]

def table : Bindings Decoration :=
  ⟨[("b".toList, bold), ("bold".toList, bold), ("i".toList, italic), ("italic".toList, italic),
    ("s".toList, strikethrough), ("strikethrough".toList, strikethrough), ("u".toList, underline),
    ("underline".toList, underline)]⟩

def wrap (d : Decoration) (text : Text) : Text :=
  d.opening ++ text ++ d.closing

def ofName? (given : Text) : Option Decoration :=
  table.find? given

end Decoration

end SceneNotation
