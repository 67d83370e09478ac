import SceneNotation.Text.Newline

/- A line of notation is recognised by how it begins, except that dialogue is
   recognised by an opening bracket anywhere in the line. Labels and comments come
   before dialogue, everything else after it. What a line says is read off its text
   alone, and so are the files that it can ask for. -/
namespace SceneNotation

def splitBoosts : Text → Nat × Text
  | '%' :: 'i' :: 'n' :: '%' :: rest =>
      let found := splitBoosts rest
      (found.1 + 1, found.2)
  | body => (0, body)

inductive Directive where
  | label (name : Text)
  | comment (line : Text)
  | dialogue (line : Text)
  | aliasing (line : Text)
  | verbatim (content : Text)
  | instruction (text : Text)
  | unknown
  deriving DecidableEq, Repr

/-- Reads a line whose boosts have been removed. -/
def Directive.ofLine (line : Text) : Directive :=
  match line with
  | ';' :: ';' :: name => .label name
  | '#' :: _ => .comment line
  | _ =>
      if line.contains '「' then .dialogue line
      else match line with
        | ';' :: _ => .aliasing line
        | ':' :: content => .verbatim content
        | '$' :: text => .instruction text
        | _ => .unknown

/-- The last character of a line of dialogue stands for its closing bracket, whatever it is. -/
inductive Dialogue where
  | narration (message : Text)
  | speech (speaker message : Text)
  deriving DecidableEq, Repr

inductive Dialogue.Problem where
  | unclosed
  | uncut
  deriving DecidableEq, Repr

def Dialogue.ofLine (line : Text) : Except Dialogue.Problem Dialogue :=
  if line.contains '」' then
    match line with
    | '「' :: rest => .ok (.narration rest.dropLast)
    | _ =>
        match Text.cut? '「' line.dropLast with
        | some (speaker, message) => .ok (.speech speaker message)
        | none => .error .uncut
  else .error .unclosed

structure CharacterAlias where
  name : Text
  shown : Text
  deriving DecidableEq, Repr

inductive CharacterAlias.Problem where
  | malformed
  | uncut
  deriving DecidableEq, Repr

/-- The first character is dropped, whatever it is; the colon is first looked for in the whole
line. -/
def CharacterAlias.ofLine (line : Text) : Except CharacterAlias.Problem CharacterAlias :=
  if line.contains ':' then
    match Text.cut? ':' line.tail with
    | some (name, shown) => .ok ⟨name, shown⟩
    | none => .error .uncut
  else .error .malformed

structure Call where
  command : Text
  args : List Text
  line : Int
  deriving DecidableEq, Repr

/-- Reads what follows the `$` of an instruction line. Without a word it calls the command with the
empty name. -/
def Call.ofText (text : Text) (line : Int) : Call :=
  match Text.words text with
  | [] => ⟨[], [], line⟩
  | command :: args => ⟨command, args, line⟩

/-- The path that a line asks for, unless it is skipped or passed through. -/
def mentionedPath? (line : Text) : Option Text :=
  match Directive.ofLine (splitBoosts line).2 with
  | .instruction text =>
      match Text.words text with
      | [command, path] => if command = "include".toList then some path else none
      | _ => none
  | _ => none

/-- A compilation asks for no other paths than these, but it may ask for fewer. -/
def mentionedPaths (text : Text) : List Text :=
  (Text.sourceLines text).filterMap mentionedPath?

end SceneNotation
