import SceneNotation.Bindings
import SceneNotation.Instruction.Spec

/- The instructions that can be called, by name and in the order of registration.
   Registering a name again replaces its specification in place. -/
namespace SceneNotation.Instruction

structure Registry where
  specs : Bindings Spec := {}
  deriving DecidableEq, Repr

namespace Registry

def register (registry : Registry) (spec : Spec) : Registry :=
  ⟨registry.specs.bind spec.name spec⟩

def find? (registry : Registry) (name : Text) : Option Spec :=
  registry.specs.find? name

def names (registry : Registry) : List Text :=
  registry.specs.names

def inCategory (registry : Registry) (category : Category) : List Spec :=
  registry.specs.values.filter fun spec => spec.category = category

def specBlock : Spec where
  name := "python".toList
  category := .mode
  description := "Open a top-level python: block until $endpy".toList
  examples := ["$python\nflag = True\n$endpy".toList]
  action := .enter .block

def specScript : Spec where
  name := "renpy".toList
  category := .mode
  description := "Pass Ren'Py lines through verbatim until $endrenpy".toList
  examples := ["$renpy\nscene bg room\n$endrenpy".toList]
  action := .enter .script

def specNestedBlock : Spec where
  name := "inpy".toList
  category := .mode
  description := "Open a python: block nested in a label until $endinpy".toList
  examples := ["$inpy\ncount += 1\n$endinpy".toList]
  action := .enter .nestedBlock

def specSplice : Spec where
  name := "include".toList
  category := .inclusion
  description := "Compile a scenario file and insert its output".toList
  arity := ⟨0, none⟩
  examples := ["$include chapter1.scn".toList]
  action := .splice

def specStyle : Spec where
  name := "style".toList
  category := .decoration
  description := "Wrap following dialogue in bold/italic/strikethrough/underline tags".toList
  arity := ⟨1, none⟩
  examples := ["$style b i".toList, "$style underline".toList]
  action := .style

def specEndStyle : Spec where
  name := "endstyle".toList
  category := .decoration
  description := "Clear all active decorations".toList
  examples := ["$endstyle".toList]
  action := .endStyle

def specDefine : Spec where
  name := "define".toList
  category := .substitution
  description := "Replace a literal token in dialogue text".toList
  arity := ⟨2, some 2⟩
  examples := ["$define HERO Taro".toList]
  action := .define

def specIfDefined : Spec where
  name := "ifdef".toList
  category := .conditional
  description := "Compile the block only if the token was $define-d".toList
  arity := ⟨1, some 1⟩
  examples := ["$ifdef DEBUG\n「debug line。」\n$endif".toList]
  action := .ifDefined

def specIfUndefined : Spec where
  name := "ifndef".toList
  category := .conditional
  description := "Compile the block only if the token was not $define-d".toList
  arity := ⟨1, some 1⟩
  examples := ["$ifndef DEBUG\n「release line。」\n$endif".toList]
  action := .ifUndefined

def specEndIf : Spec where
  name := "endif".toList
  category := .conditional
  description := "Close a conditional block".toList
  examples := ["$endif".toList]
  action := .endIf

def builtinSpecs : List Spec :=
  [specBlock, specScript, specNestedBlock, specSplice, specStyle, specEndStyle,
    specDefine, specIfDefined, specIfUndefined, specEndIf]

def builtin : Registry :=
  builtinSpecs.foldl register {}

end Registry

end SceneNotation.Instruction
