import SceneNotation.FileAccess
import SceneNotation.Proofs.Storage

/- Nothing in a file access says how many texts there are behind it, and its paths
   are without number. Both kinds that there are have no more texts than they lay
   claim to: in memory there is one for each name, and on disk one for each file,
   whatever paths lead to it. -/
namespace SceneNotation

def FileAccess.Bounded (files : FileAccess) : Prop :=
  ∃ texts : List Text, texts.length ≤ files.size ∧
    ∀ path text, files.contains path = true → files.read path = .ok text → text ∈ texts

/-- Whatever files there are, they are bounded. -/
def FilesBounded (files : Option FileAccess) : Prop :=
  ∀ access, files = some access → access.Bounded

theorem filesBounded_none : FilesBounded none := by
  intro access impossible
  cases impossible

theorem FileAccess.Bounded.files {access : FileAccess} (bounded : access.Bounded) :
    FilesBounded (some access) := by
  rintro _ ⟨⟩
  exact bounded

theorem FileAccess.ofBindings_bounded (held : Bindings (Except ReadFault Text)) :
    (ofBindings held).Bounded := by
  refine ⟨held.entries.filterMap fun entry => entry.2.toOption, List.length_filterMap_le _ _, ?_⟩
  intro path text _ reads
  simp only [ofBindings] at reads
  cases found : held.find? path with
  | none => simp [found] at reads
  | some content =>
      simp only [found, Option.getD_some] at reads
      rw [List.mem_filterMap]
      exact ⟨(path, content), Bindings.mem_of_find? found, by simp [reads, Except.toOption]⟩

namespace FileSystem

variable {system : FileSystem}

theorem mem_nodes_of_node? {place : Location} {bytes : List UInt8}
    (found : system.node? place = some (.file bytes)) : (place, Node.file bytes) ∈ system.nodes := by
  unfold node? at found
  split at found
  · cases found
  · generalize system.nodes = nodes at found ⊢
    induction nodes with
    | nil => cases found
    | cons entry rest ih =>
        rw [nodeIn?] at found
        split at found
        · next same =>
            rw [← same, ← Option.some.inj found]
            exact List.mem_cons_self
        · exact List.mem_cons_of_mem entry (ih found)

theorem readText_eq_ok {codecs : Text.Codecs} {name : Text} {path : Path} {text : Text}
    (reads : system.readText codecs name path = .ok text) :
    Text.Encoding.nameHoldsNul name = false ∧ ∃ codec bytes decoded,
      codecs name = some codec ∧ system.readBytes path = .ok bytes ∧
      codec.decode bytes = .ok decoded ∧ text = Text.unifyNewlines decoded := by
  unfold readText at reads
  split at reads
  · cases reads
  · next named =>
      split at reads
      · cases reads
      · next bytes stored =>
          split at reads
          · cases reads
          · next codec known =>
              split at reads
              · cases reads
              · next decoded decodes =>
                  cases reads
                  exact ⟨by simpa using named, codec, bytes, decoded, known, stored, decodes, rfl⟩

end FileSystem

/-- The text that a node holds, if it is a file and can be decoded. -/
def Node.text? (codec : Text.Codec) : Node → Option Text
  | .directory => none
  | .file bytes => (codec.decode bytes).toOption.map Text.unifyNewlines

theorem LocalFiles.access_bounded (files : LocalFiles) : files.access.Bounded := by
  cases known : files.codecs files.encoding with
  | none =>
      refine ⟨[], Nat.zero_le _, ?_⟩
      intro path text _ reads
      obtain ⟨_, codec, _, _, found, _⟩ := FileSystem.readText_eq_ok reads
      rw [known] at found
      cases found
  | some codec =>
      refine ⟨files.system.nodes.filterMap fun entry => entry.2.text? codec,
        List.length_filterMap_le _ _, ?_⟩
      intro path text _ reads
      obtain ⟨_, other, bytes, decoded, found, stored, decodes, rfl⟩ := FileSystem.readText_eq_ok reads
      obtain rfl : other = codec := Option.some.inj (found.symm.trans known)
      obtain ⟨_, place, _, held⟩ := FileSystem.readBytes_eq_ok_iff.mp stored
      refine List.mem_filterMap.mpr ⟨_, FileSystem.mem_nodes_of_node? held, ?_⟩
      simp [Node.text?, decodes, Except.toOption]

end SceneNotation
