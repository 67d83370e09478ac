import SceneNotation.Compilation
import SceneNotation.Proofs.Access
import SceneNotation.Proofs.Reading

/- A compilation writes the characters of the texts it was given, the indent unit,
   and marks of its own. These marks are ASCII, all but the brackets around speech,
   and speech has them in its line. So an alphabet that has ASCII, the unit and the
   texts has the script. What an encoding can hold is such an alphabet: it spells
   whatever was decoded, and exactly what can be encoded. A line feed is written at
   the end of a line and nowhere else, so an alphabet without it spells the lines. -/
namespace SceneNotation

/-- Characters that a text may be written in, all of ASCII among them but, perhaps, the line feed. -/
structure Alphabet where
  Holds : Char → Prop
  ascii : ∀ c : Char, c.toNat < 128 → c ≠ '\n' → Holds c

namespace Alphabet

def Spells (alphabet : Alphabet) (text : Text) : Prop :=
  ∀ c ∈ text, alphabet.Holds c

variable {alphabet : Alphabet}

@[simp] theorem spells_nil : alphabet.Spells [] := by
  intro c member
  cases member

@[simp] theorem spells_cons {c : Char} {rest : Text} :
    alphabet.Spells (c :: rest) ↔ alphabet.Holds c ∧ alphabet.Spells rest :=
  List.forall_mem_cons

@[simp] theorem spells_append {first second : Text} :
    alphabet.Spells (first ++ second) ↔ alphabet.Spells first ∧ alphabet.Spells second :=
  List.forall_mem_append

theorem Spells.of_subset {text part : Text} (spelled : alphabet.Spells text) (within : part ⊆ text) :
    alphabet.Spells part :=
  fun c member => spelled c (within member)

-- the test is Boolean so that it runs over the text, and is never taken to run over all characters
variable (alphabet) in
theorem spells_ascii {text : Text}
    (plain : text.all (fun c => decide (c.toNat < 128 ∧ c ≠ '\n')) = true) : alphabet.Spells text := by
  intro c member
  obtain ⟨low, solid⟩ := of_decide_eq_true (List.all_eq_true.mp plain c member)
  exact alphabet.ascii c low solid

theorem spells_replaceFrom {replacement text : Text} (given : alphabet.Spells replacement)
    (spelled : alphabet.Spells text) (token : Text) (pending : Nat) :
    alphabet.Spells (Text.replaceFrom token replacement pending text) := by
  induction text generalizing pending with
  | nil =>
      rw [Text.replaceFrom]
      exact spells_nil
  | cons c rest ih =>
      obtain ⟨first, later⟩ := spells_cons.mp spelled
      cases pending with
      | succ pending =>
          rw [Text.replaceFrom]
          exact ih later pending
      | zero =>
          rw [Text.replaceFrom]
          split
          · exact spells_append.mpr ⟨given, ih later _⟩
          · exact spells_cons.mpr ⟨first, ih later 0⟩

theorem spells_replaceAll {replacement text : Text} (given : alphabet.Spells replacement)
    (spelled : alphabet.Spells text) (token : Text) :
    alphabet.Spells (Text.replaceAll token replacement text) := by
  unfold Text.replaceAll
  split
  · exact spelled
  · exact spells_replaceFrom given spelled token 0

theorem spells_decorated {text : Text} {decorations : List Decoration}
    (marked : ∀ decoration ∈ decorations,
      alphabet.Spells decoration.opening ∧ alphabet.Spells decoration.closing)
    (spelled : alphabet.Spells text) :
    alphabet.Spells (decorations.foldl (fun text decoration => decoration.wrap text) text) := by
  induction decorations generalizing text with
  | nil => exact spelled
  | cons decoration rest ih =>
      obtain ⟨⟨opening, closing⟩, later⟩ := List.forall_mem_cons.mp marked
      apply ih later
      simp only [Decoration.wrap, spells_append]
      exact ⟨⟨opening, spelled⟩, closing⟩

theorem spells_substituted {entries : List (Text × Text)} {text : Text}
    (listed : ∀ entry ∈ entries, alphabet.Spells entry.2) (spelled : alphabet.Spells text) :
    alphabet.Spells (entries.foldl (fun text entry => Text.replaceAll entry.1 entry.2 text) text) := by
  induction entries generalizing text with
  | nil => exact spelled
  | cons entry rest ih =>
      obtain ⟨first, later⟩ := List.forall_mem_cons.mp listed
      exact ih later (spells_replaceAll first spelled entry.1)

theorem spells_repeated {unit : Text} (spelled : alphabet.Spells unit) (count : Nat) :
    alphabet.Spells (Text.repeated unit count) := by
  unfold Text.repeated
  split
  · exact spells_nil
  · intro c member
    obtain ⟨copy, listed, found⟩ := List.mem_flatten.mp member
    rw [List.eq_of_mem_replicate listed] at found
    exact spelled c found

end Alphabet

namespace Text

theorem subset_of_mem_sourceLines {text line : Text} (listed : line ∈ sourceLines text) :
    line ⊆ text :=
  fun _ member => joinReturns_subset text (mem_of_mem_splitBy listed member).1

end Text

namespace Dialogue

theorem narration_subset {line message : Text} (read : ofLine line = .ok (.narration message)) :
    message ⊆ line := by
  unfold ofLine at read
  split at read
  · split at read
    · cases read
      exact fun c member => List.mem_cons_of_mem '「' (List.dropLast_subset _ member)
    · split at read <;> cases read
  · cases read

theorem speech_subset {line speaker message : Text}
    (read : ofLine line = .ok (.speech speaker message)) :
    speaker ⊆ line ∧ message ⊆ line ∧ '「' ∈ line ∧ '」' ∈ line := by
  unfold ofLine at read
  split at read
  · next closing =>
      split at read
      · cases read
      · split at read
        · next cut =>
            cases read
            have whole := (Text.cut?_eq_some cut).1
            have within : speaker ++ '「' :: message ⊆ line := by
              rw [← whole]
              exact List.dropLast_subset line
            exact ⟨fun c member => within (by simp [member]), fun c member => within (by simp [member]),
              within (by simp), by simpa using closing⟩
        · cases read
  · cases read

end Dialogue

namespace Compiler

variable {alphabet : Alphabet}

/-- Whatever the tables can put into the output. Names and tokens are only looked for. -/
structure Memory.SpelledIn (alphabet : Alphabet) (memory : Memory) : Prop where
  aliases : ∀ entry ∈ memory.aliases.entries, alphabet.Spells entry.2
  substitutions : ∀ entry ∈ memory.substitutions.entries, alphabet.Spells entry.2
  decorations : ∀ decoration ∈ memory.decorations,
    alphabet.Spells decoration.opening ∧ alphabet.Spells decoration.closing

/-- What an inclusion puts in is not the deed's own. -/
def Deed.SpelledIn (alphabet : Alphabet) : Deed → Prop
  | .write memory _ content => memory.SpelledIn alphabet ∧ alphabet.Spells content
  | .narrate message => alphabet.Spells message
  | .splice _ | .refuse _ | .breakOff _ => True

theorem spells_labelLine {name : Text} (given : alphabet.Spells name) :
    alphabet.Spells (labelLine name) := by
  change alphabet.Spells ("label ".toList ++ name ++ [':'])
  simp only [Alphabet.spells_append]
  exact ⟨⟨alphabet.spells_ascii (by decide), given⟩, alphabet.spells_ascii (by decide)⟩

namespace Memory.SpelledIn

variable {memory : Memory} (spelled : memory.SpelledIn alphabet)

theorem start : ({} : Memory).SpelledIn alphabet := ⟨by simp, by simp, by simp⟩

include spelled

theorem effects {text : Text} (given : alphabet.Spells text) :
    alphabet.Spells (memory.fresh.effects text) :=
  Alphabet.spells_substituted spelled.substitutions (Alphabet.spells_decorated spelled.decorations given)

theorem speakerText {speaker : Text} (given : alphabet.Spells speaker) :
    alphabet.Spells (speakerText memory.fresh speaker) := by
  unfold Compiler.speakerText
  split
  · next shown found => exact spelled.aliases _ (Bindings.mem_of_find? found)
  · rw [Alphabet.spells_append, Alphabet.spells_append]
    exact ⟨⟨alphabet.spells_ascii (by decide), given⟩, alphabet.spells_ascii (by decide)⟩

theorem narrationLine {message : Text} (given : alphabet.Spells message) :
    alphabet.Spells (narrationLine memory.fresh message) := by
  unfold Compiler.narrationLine
  rw [Alphabet.spells_append, Alphabet.spells_append]
  exact ⟨⟨alphabet.spells_ascii (by decide), spelled.effects given⟩,
    alphabet.spells_ascii (by decide)⟩

theorem keep : memory.keep.SpelledIn alphabet := ⟨spelled, Alphabet.spells_nil⟩

theorem speechLine {speaker message : Text} (speakerGiven : alphabet.Spells speaker)
    (messageGiven : alphabet.Spells message) (opening : alphabet.Holds '「')
    (closing : alphabet.Holds '」') : alphabet.Spells (speechLine memory.fresh speaker message) := by
  have before : alphabet.Spells ([' ', '"'] ++ ['「']) :=
    Alphabet.spells_append.mpr ⟨alphabet.spells_ascii (by decide), by simpa using opening⟩
  have behind : alphabet.Spells ('」' :: ['"']) :=
    Alphabet.spells_cons.mpr ⟨closing, alphabet.spells_ascii (by decide)⟩
  simp only [Compiler.speechLine, Alphabet.spells_append]
  exact ⟨⟨⟨spelled.speakerText speakerGiven, before⟩, spelled.effects messageGiven⟩, behind⟩

theorem aliasing {shown : Text} (given : alphabet.Spells shown) (name : Text) :
    ({ memory with aliases := memory.aliases.bind name shown } : Memory).SpelledIn alphabet := by
  refine { spelled with aliases := ?_ }
  intro entry bound
  rcases Bindings.mem_of_mem_bindIn bound with rfl | earlier
  · exact given
  · exact spelled.aliases entry earlier

theorem style {names : List Text} {found : List Decoration}
    (looked : lookupDecorations names = .ok found) :
    ({ memory with decorations := memory.decorations ++ found } : Memory).SpelledIn alphabet := by
  refine { spelled with decorations := ?_ }
  intro decoration member
  rcases List.mem_append.mp member with earlier | added
  · exact spelled.decorations decoration earlier
  · have plain : ∀ known ∈ Decoration.all,
        (known.opening ++ known.closing).all (fun c => decide (c.toNat < 128 ∧ c ≠ '\n')) = true := by
      decide
    exact Alphabet.spells_append.mp
      (alphabet.spells_ascii (plain decoration (mem_all_of_lookupDecorations looked added)))

theorem skipIf (condition : Bool) : (memory.skipIf condition).SpelledIn alphabet := by
  cases condition with
  | false => exact spelled
  | true => exact { spelled with }

theorem define {replacement : Text} (given : alphabet.Spells replacement) (token : Text) :
    ({ memory with substitutions := memory.substitutions.bind token replacement } :
      Memory).SpelledIn alphabet := by
  refine { spelled with substitutions := ?_ }
  intro entry bound
  rcases Bindings.mem_of_mem_bindIn bound with rfl | earlier
  · exact given
  · exact spelled.substitutions entry earlier

theorem means {body : Text} {reading : Reading} (means : memory.Means body reading)
    (files : Option FileAccess) (given : alphabet.Spells body) :
    (reading.deed files).SpelledIn alphabet := by
  cases means with
  | label marked =>
      rw [marked] at given
      exact ⟨spelled, spells_labelLine (given.of_subset (by simp))⟩
  | comment => exact ⟨spelled, given⟩
  | @verbatim content _ marked =>
      rw [marked] at given
      exact ⟨spelled, given.of_subset (List.subset_cons_self ':' content)⟩
  | narration _ read => exact given.of_subset (Dialogue.narration_subset read)
  | speech _ read =>
      -- the brackets are no part of ASCII, but both of them stand in the line
      obtain ⟨speakerWithin, messageWithin, opening, closing⟩ := Dialogue.speech_subset read
      exact ⟨spelled, spelled.speechLine (given.of_subset speakerWithin) (given.of_subset messageWithin)
        (given _ opening) (given _ closing)⟩
  | aliasing _ read =>
      obtain ⟨cut, _⟩ := CharacterAlias.ofLine_eq_ok read
      refine (spelled.aliasing (given.of_subset fun c member => ?_) _).keep
      apply List.mem_of_mem_tail
      rw [cut]
      simp [member]
  | opens => exact ⟨{ spelled with }, alphabet.spells_ascii (by decide)⟩
  | enters => exact keep { spelled with }
  | inclusion =>
      exact Reading.inclusion_cases files _ (fun _ => trivial) (fun _ => trivial) fun _ => trivial
  | style _ _ looked => exact (spelled.style looked).keep
  | endStyle => exact keep { spelled with decorations := by simp }
  | @define token replacement instructs =>
      have within : replacement ⊆ body := fun c member => instructs.mem_of_mem (by simp) member
      exact (spelled.define (given.of_subset within) token).keep
  | ifDefined | ifUndefined => exact (spelled.skipIf _).keep
  | endIf => exact spelled.keep
  | unclosed | unsplit | malformed | undecorated | unknown | miscounted | invalid => trivial

theorem deed (files : Option FileAccess) {line : Text} (given : alphabet.Spells line) :
    (memory.deed files line).SpelledIn alphabet := by
  have rule := memory.reading_reads line
  unfold Memory.deed
  generalize memory.reading line = reading at rule
  cases rule with
  | resumes | leaves => exact keep { spelled with }
  | skips | empty => exact spelled.keep
  | copies => exact ⟨spelled, given⟩
  | means _ _ means => exact spelled.means means files (given.of_subset (splitBoosts_suffix line).subset)

end Memory.SpelledIn

structure State.SpelledIn (alphabet : Alphabet) (state : State) : Prop where
  memory : state.memory.SpelledIn alphabet
  emissions : ∀ emission ∈ state.emissions, alphabet.Spells emission.content

theorem Emission.spliced_spelled {emissions : List Emission}
    (spelled : ∀ emission ∈ emissions, alphabet.Spells emission.content) (boost : Nat) :
    ∀ emission ∈ spliced boost emissions, alphabet.Spells emission.content := by
  cases emissions with
  | nil => simp [spliced]
  | cons first rest =>
      obtain ⟨head, tail⟩ := List.forall_mem_cons.mp spelled
      rw [spliced, List.forall_mem_append, List.forall_mem_cons]
      exact ⟨⟨head, tail⟩, by simp⟩

theorem Deed.recalled_spelled {deed : Deed} (spelled : deed.SpelledIn alphabet) {memory : Memory}
    (start : memory.SpelledIn alphabet) : (deed.recalled memory).SpelledIn alphabet := by
  cases deed with
  | write next level content => exact spelled.1
  | narrate message => exact start
  | splice text => exact start
  | refuse fault => exact start
  | breakOff breakdown => exact start

theorem Deed.emissions_spelled {deed : Deed} (spelled : deed.SpelledIn alphabet) {memory : Memory}
    (start : memory.SpelledIn alphabet) {nested : Text → Step} (boost : Nat)
    (inner : ∀ text, deed = .splice text →
      ∀ emission ∈ (nested text).state.emissions, alphabet.Spells emission.content) :
    ∀ emission ∈ deed.emissions nested memory boost, alphabet.Spells emission.content := by
  cases deed with
  | write next level content => simpa [emissions, Emission.indented] using spelled.2
  | narrate message => simpa [emissions, Emission.indented] using start.narrationLine spelled
  | splice text => exact Emission.spliced_spelled (inner text rfl) boost
  | refuse fault => simp [emissions]
  | breakOff breakdown => simp [emissions]

section Runs

variable {settings : Settings} {files : Option FileAccess} {depth : Nat}

theorem lineStep_spelled {state : State} {line : Text} (spelled : state.SpelledIn alphabet)
    (given : alphabet.Spells line)
    (included : ∀ path text, Supplies files path text →
      (compileIncluded settings files depth text).failure = none →
      (compileIncluded settings files depth text).state.SpelledIn alphabet)
    (done : (lineStep settings files depth state line).failure = none) :
    (lineStep settings files depth state line).state.SpelledIn alphabet := by
  have reads : (state.memory.deed files line).SpelledIn alphabet := spelled.memory.deed files given
  have inner : ∀ text, state.memory.deed files line = .splice text →
      ∀ emission ∈ (compileIncluded settings files depth text).state.emissions,
        alphabet.Spells emission.content := by
    intro text splices
    obtain ⟨path, includes⟩ := includes_of_deed splices
    rw [lineStep_failure_of_includes includes] at done
    exact (included path text includes.supplied done).emissions
  rw [lineStep_state_of_done done]
  refine ⟨Deed.recalled_spelled reads spelled.memory, ?_⟩
  intro emission member
  rcases List.mem_append.mp member with earlier | added
  · exact spelled.emissions emission earlier
  · exact Deed.emissions_spelled reads spelled.memory _ inner emission added

/-- The induction is on the inclusions that may still be opened: each compiles a text that the
files supply. -/
theorem compileIncluded_spelled
    (supplied : ∀ path text, Supplies files path text →
      ∀ line ∈ Text.sourceLines text, alphabet.Spells line) {text : Text}
    (given : ∀ line ∈ Text.sourceLines text, alphabet.Spells line)
    (done : (compileIncluded settings files depth text).failure = none) :
    (compileIncluded settings files depth text).state.SpelledIn alphabet := by
  induction depth generalizing text with
  | zero => cases done
  | succ depth ih =>
      have start : ({} : State).SpelledIn alphabet := ⟨.start, by simp⟩
      have keeps : ∀ state, ∀ line ∈ Text.sourceLines text, state.SpelledIn alphabet →
          (lineStep settings files depth state line).failure = none →
          (lineStep settings files depth state line).state.SpelledIn alphabet := by
        intro state line listed spelled
        exact lineStep_spelled spelled (given line listed)
          fun path text held => ih (supplied path text held)
      exact (compileIncluded_goesThrough done).invariant_on keeps start

theorem State.output_spelled {state : State} (spelled : state.SpelledIn alphabet) {unit : Text}
    (given : alphabet.Spells unit) (feed : alphabet.Holds '\n') : alphabet.Spells (state.output unit) := by
  intro c member
  obtain ⟨emission, listed, rendered⟩ := List.mem_flatMap.mp member
  have line : alphabet.Spells (emission.render unit) := by
    rw [Emission.render, Alphabet.spells_append, Alphabet.spells_append]
    exact ⟨⟨Alphabet.spells_repeated given _, spelled.emissions emission listed⟩, by simpa using feed⟩
  exact line c rendered

end Runs

end Compiler

theorem compile_spelled {alphabet : Alphabet} {settings : Settings} {files : Option FileAccess}
    {text script : Text} {warnings : List Warning}
    (supplied : ∀ path text, Compiler.Supplies files path text → alphabet.Spells text)
    (given : alphabet.Spells text) (unit : alphabet.Spells settings.indentUnit)
    (feed : alphabet.Holds '\n')
    (compiled : (compile settings files text).outcome = .ok (.compiled script warnings)) :
    alphabet.Spells script := by
  unfold compile Compilation.ofStep at compiled
  split at compiled
  · next done =>
      cases compiled
      have lines : ∀ text, alphabet.Spells text → ∀ line ∈ Text.sourceLines text, alphabet.Spells line :=
        fun text spelled line listed => spelled.of_subset (Text.subset_of_mem_sourceLines listed)
      exact Compiler.State.output_spelled (Compiler.compileIncluded_spelled
        (fun path text held => lines text (supplied path text held)) (lines text given) done) unit feed
  · cases compiled
  · cases compiled

namespace Text.Encoding

def alphabet : Encoding → Alphabet
  | .utf8 | .utf8Signed => ⟨fun _ => True, fun _ _ _ => trivial⟩
  | .ascii => ⟨fun c => c.toNat < 128, fun _ low _ => low⟩
  | .latin1 => ⟨fun c => c.toNat < 256, fun _ low _ => Nat.lt_trans low (by decide)⟩

theorem alphabet_feed (encoding : Encoding) : encoding.alphabet.Holds '\n' := by
  cases encoding with
  | utf8 => trivial
  | utf8Signed => trivial
  | ascii => exact (by decide : '\n'.toNat < 128)
  | latin1 => exact (by decide : '\n'.toNat < 256)

theorem encodeBytes_ok_iff (encoding : Encoding) (limit position : Nat) (text : Text) :
    (∃ bytes, encodeBytes encoding limit position text = .ok bytes) ↔ ∀ c ∈ text, c.toNat < limit := by
  induction text generalizing position with
  | nil => simp [encodeBytes]
  | cons c rest ih =>
      rw [encodeBytes, List.forall_mem_cons, ← ih (position + 1)]
      split
      · next low =>
          cases encodeBytes encoding limit (position + 1) rest <;> simp [Except.map, low]
      · next high => simp [high]

theorem decodeBytes_below {encoding : Encoding} {limit position : Nat} {bytes : List UInt8} {text : Text}
    (decodes : decodeBytes encoding limit position bytes = .ok text) : ∀ c ∈ text, c.toNat < limit := by
  induction bytes generalizing position text with
  | nil =>
      cases decodes
      simp
  | cons byte rest ih =>
      rw [decodeBytes] at decodes
      split at decodes
      · next low =>
          cases later : decodeBytes encoding limit (position + 1) rest with
          | error fault =>
              rw [later] at decodes
              cases decodes
          | ok others =>
              rw [later] at decodes
              cases decodes
              have code : (Char.ofNat byte.toNat).toNat = byte.toNat := by
                have valid : byte.toNat.isValidChar := Or.inl (by have := byte.toNat_lt; omega)
                rw [Char.ofNat, dif_pos valid]
                rfl
              rw [List.forall_mem_cons, code]
              exact ⟨low, ih later⟩
      · cases decodes

theorem encode_ok_iff (encoding : Encoding) (text : Text) :
    (∃ bytes, encoding.encode text = .ok bytes) ↔ encoding.alphabet.Spells text := by
  cases encoding with
  | utf8 => simp [encode, alphabet, Alphabet.Spells]
  | utf8Signed => simp [encode, alphabet, Alphabet.Spells]
  | ascii => exact encodeBytes_ok_iff .ascii 128 0 text
  | latin1 => exact encodeBytes_ok_iff .latin1 256 0 text

theorem decode_spelled {encoding : Encoding} {bytes : List UInt8} {text : Text}
    (decodes : encoding.decode bytes = .ok text) : encoding.alphabet.Spells text := by
  cases encoding with
  | utf8 => exact fun _ _ => trivial
  | utf8Signed => exact fun _ _ => trivial
  | ascii => exact decodeBytes_below decodes
  | latin1 => exact decodeBytes_below decodes

end Text.Encoding

namespace Text.Codec

/-- The codec writes exactly the texts that are spelled in the alphabet, and reads no others. -/
structure SpelledIn (alphabet : Alphabet) (codec : Codec) : Prop where
  feed : alphabet.Holds '\n'
  encode_ok_iff : ∀ text, (∃ bytes, codec.encode text = .ok bytes) ↔ alphabet.Spells text
  decode_spelled : ∀ bytes text, codec.decode bytes = .ok text → alphabet.Spells text

/-- Whether a text can be written is a matter of its characters, those of ASCII can all be written,
and so can whatever is read. -/
def Faithful (codec : Codec) : Prop :=
  ∃ alphabet : Alphabet, codec.SpelledIn alphabet

theorem faithful_of_codec? {name : Text} {codec : Codec} (known : Encoding.codec? name = some codec) :
    codec.Faithful := by
  obtain ⟨encoding, _, rfl⟩ := Option.map_eq_some_iff.mp known
  exact ⟨encoding.alphabet, encoding.alphabet_feed, encoding.encode_ok_iff,
    fun _ _ => Encoding.decode_spelled⟩

end Text.Codec

theorem Alphabet.Spells.unifyNewlines {alphabet : Alphabet} {text : Text} (spelled : alphabet.Spells text)
    (feed : alphabet.Holds '\n') : alphabet.Spells (Text.unifyNewlines text) := by
  intro c member
  rcases Text.mem_of_mem_unifyNewlines member with rfl | kept
  · exact feed
  · exact spelled c kept

theorem FileSystem.readText_spelled {system : FileSystem} {codecs : Text.Codecs} {name : Text} {path : Path}
    {text : Text} {codec : Text.Codec} {alphabet : Alphabet} (known : codecs name = some codec)
    (spelled : codec.SpelledIn alphabet) (reads : system.readText codecs name path = .ok text) :
    alphabet.Spells text := by
  obtain ⟨_, other, bytes, decoded, named, _, decodes, rfl⟩ := readText_eq_ok reads
  obtain rfl : other = codec := Option.some.inj (named.symm.trans known)
  exact (spelled.decode_spelled bytes decoded decodes).unifyNewlines spelled.feed

end SceneNotation
