import DataGateway.Proofs.Json.Limits
import DataGateway.Proofs.Text.Utf8
import DataGateway.Store.Directory

/-!
# What a file says

Reading a key whose name leads to a file depends on nothing but the content of the file. A document is
read as the value that it says, and a text that is no document as null. Two kinds of content are not
read at all, and the fault is that of the decoder: octets that are no text, and documents on which the
reader gives up before it has found out whether they say anything. Of a document with half a pair of code
units in it, which is no character, it is only said that it is read.

* `Directory.parse_of_says`, `parse_of_says_nothing`, `parse_of_givesUp`, `parse_of_no_text` — what is
  made of octets;
* `Directory.Content` — what a key says whose file has some content;
* `Directory.read_content` — reading says that, whatever the content is.
-/

namespace DataGateway.Store.Directory

open Text

variable {bytes : List UInt8} {document : List Char} {v : Value}

/-! ## Octets -/

theorem parse_of_says (said : Json.Document document v) :
    parse (Utf8.encode document) = .ok v := by
  simp only [parse, Utf8.decode_encode, Json.decode_eq_ok_iff.2 said]

/-- A text that says nothing is null, unless the reader gives up on it. -/
theorem parse_of_says_nothing (nothing : ∀ v, ¬Json.Document document v)
    (within : ¬Json.GivesUp document) : parse (Utf8.encode document) = .ok .null := by
  cases read : Json.decode document with
  | ok v => exact absurd (Json.decode_eq_ok_iff.1 read) (nothing v)
  | error problem =>
      simp only [parse, Utf8.decode_encode, read]
      split
      -- the two causes that are raised are the limits, and both are excluded
      · rename_i count digits
        exact absurd ⟨problem, read, by rw [digits]; trivial⟩ within
      · rename_i kind depth
        exact absurd ⟨problem, read, by rw [depth]; trivial⟩ within
      · rfl

theorem parse_of_givesUp (givesUp : Json.GivesUp document) :
    ∃ misuse, parse (Utf8.encode document) = .error (.misuse misuse) := by
  rcases givesUp with ⟨⟨cause, remaining⟩, read, limit⟩
  simp only [parse, Utf8.decode_encode, read]
  cases cause with
  | digits count => exact ⟨_, rfl⟩
  | depth kind => exact ⟨_, rfl⟩
  | _ => exact limit.elim

/-- Octets that are no text are not read. -/
theorem parse_of_no_text (noText : ∀ document, bytes ≠ Utf8.encode document) :
    ∃ misuse, parse bytes = .error (.misuse misuse) := by
  cases read : Utf8.decode bytes with
  | ok document => exact absurd (Utf8.decode_eq_ok_iff.1 read) (noText document)
  | error fault =>
      rw [parse, read]
      exact ⟨_, rfl⟩

/-! ## Entries -/

/-- What a key says whose file has some content. -/
structure Content (directory : Directory) (key : String) (bytes : List UInt8) : Prop where
  /-- A document is read as the value that it says, if it says it in characters. -/
  value (document : List Char) (v : Value) : bytes = Utf8.encode document →
    Json.isPaired document = true → Json.Document document v → directory.read key = .ok v
  /-- A text that is no document is read as null. -/
  nothing (document : List Char) : bytes = Utf8.encode document → (∀ v, ¬Json.Document document v) →
    ¬Json.GivesUp document → directory.read key = .ok .null
  /-- Octets that are no text are not read, nor are documents on which the reader gives up. -/
  fails : (∃ fault, directory.read key = .error fault) ↔
    (∀ document, bytes ≠ Utf8.encode document) ∨
      ∃ document, bytes = Utf8.encode document ∧ Json.GivesUp document
  /-- Every text that is neither too long nor too deep is read. -/
  moderate (document : List Char) : bytes = Utf8.encode document →
    ¬Json.Exceeds Json.levelLimit document → ∃ v, directory.read key = .ok v ∧
      (Json.isPaired document = true →
        Json.Document document v ∨ v = .null ∧ ∀ w, ¬Json.Document document w)

/-- Reading a key says what its file says, whatever the content of the file is. -/
theorem read_content {directory : Directory} {key name : String} {path : Path}
    (found : directory.resolve key = .ok name) (file : directory.visit [name] = .file path bytes) :
    Content directory key bytes := by
  have read : directory.read key = parse bytes := by
    rw [Directory.read, found, ok_bind, file]
  have nothing (document : List Char) (same : bytes = Utf8.encode document)
      (silent : ∀ v, ¬Json.Document document v) (within : ¬Json.GivesUp document) :
      directory.read key = .ok .null := by
    rw [read, same, parse_of_says_nothing silent within]
  have settled (document : List Char) (same : bytes = Utf8.encode document)
      (within : ¬Json.GivesUp document) : ∃ v, directory.read key = .ok v ∧
        (Json.Document document v ∨ v = .null ∧ ∀ w, ¬Json.Document document w) := by
    by_cases said : ∃ v, Json.Document document v
    · rcases said with ⟨v, said⟩
      refine ⟨v, ?_, .inl said⟩
      rw [read, same, parse_of_says said]
    · rw [not_exists] at said
      exact ⟨.null, nothing document same said within, .inr ⟨rfl, said⟩⟩
  refine ⟨?_, nothing, ?_, ?_⟩
  · intro document v same _ said
    rw [read, same, parse_of_says said]
  · constructor
    · rintro ⟨fault, failed⟩
      -- octets that are a text can only fail for the limits of the reader
      by_cases text : ∃ document, bytes = Utf8.encode document
      · rcases text with ⟨document, same⟩
        refine .inr ⟨document, same, ?_⟩
        by_contra within
        rcases settled document same within with ⟨v, said, _⟩
        nomatch said.symm.trans failed
      · exact .inl (not_exists.1 text)
    · rintro (noText | ⟨document, same, givesUp⟩)
      · rcases parse_of_no_text noText with ⟨misuse, failed⟩
        exact ⟨_, read.trans failed⟩
      · rcases parse_of_givesUp givesUp with ⟨misuse, failed⟩
        rw [read, same]
        exact ⟨_, failed⟩
  · intro document same moderate
    rcases settled document same fun givesUp => moderate givesUp.exceeds with ⟨v, said, meant⟩
    exact ⟨v, said, fun _ => meant⟩

/-- A directory with one entry, and nothing else. -/
def notesFile (bytes : List UInt8) : Directory :=
  { entries := [([".daal", "notes.json"], .file bytes)] }

/-- The file of a key with an empty list in it. -/
theorem read_content_list :
    (notesFile [0x5B, 0x5D]).resolve "notes" = .ok "notes.json" ∧
      (notesFile [0x5B, 0x5D]).visit ["notes.json"] =
        .file [".daal", "notes.json"] [0x5B, 0x5D] ∧
      Content (notesFile [0x5B, 0x5D]) "notes" [0x5B, 0x5D] ∧
      (notesFile [0x5B, 0x5D]).read "notes" = .ok (.list []) := by
  have found : (notesFile [0x5B, 0x5D]).resolve "notes" = .ok "notes.json" := rfl
  have file : (notesFile [0x5B, 0x5D]).visit ["notes.json"] =
      .file [".daal", "notes.json"] [0x5B, 0x5D] := rfl
  exact ⟨found, file, read_content found file, rfl⟩

/-- A single octet that is no text makes reading fail. -/
theorem read_strayOctet :
    (notesFile [0xFF]).resolve "notes" = .ok "notes.json" ∧
      (notesFile [0xFF]).visit ["notes.json"] = .file [".daal", "notes.json"] [0xFF] ∧
      (notesFile [0xFF]).read "notes" =
        .error (.misuse (.undecodable ⟨.utf8, 0xFF, 0, 1, .start⟩)) := by
  refine ⟨rfl, rfl, rfl⟩

end DataGateway.Store.Directory
