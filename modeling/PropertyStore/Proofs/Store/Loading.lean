import PropertyStore.Proofs.Properties
import PropertyStore.Proofs.Report
import PropertyStore.Store.Source

/-! Loading is all or nothing. What a source has is either a list of entries or a fault, and a
fault leaves the store alone, however many bytes or entries came before it. Of the entries, the
last one of each key is laid over the store, so loading them again changes nothing. -/

namespace PropertyStore

variable {tree : Files.Tree} {access : Access} {defaultPath : Option String} {path cause : String}
  {bytes : Text.Bytes} {fault : Fault} {entries : List Document.Entry}

namespace ByteStream

/-- The reads of a source return bytes until one of them returns none. -/
inductive Delivers : ByteStream → Text.Bytes → Prop where
  | ended : Delivers .ended []
  | empty {rest : ByteStream} : Delivers (.chunk [] rest) []
  | chunk {part later : Text.Bytes} {rest : ByteStream} (more : part ≠ [])
      (further : Delivers rest later) : Delivers (.chunk part rest) (part ++ later)

/-- One of the reads of a source fails, after any number that return bytes. -/
inductive Breaks (cause : String) : ByteStream → Prop where
  | now : Breaks cause (.failed cause)
  | later {part : Text.Bytes} {rest : ByteStream} (more : part ≠ []) (further : Breaks cause rest) :
      Breaks cause (.chunk part rest)

private theorem readAll_chunk (more : bytes ≠ []) (rest : ByteStream) :
    (chunk bytes rest).readAll = rest.readAll.map (bytes ++ ·) := by
  rw [readAll, if_neg (by simpa using more)]

theorem readAll_eq_ok_iff (stream : ByteStream) :
    stream.readAll = .ok bytes ↔ stream.Delivers bytes := by
  constructor
  · intro read
    induction stream generalizing bytes with
    | ended =>
      cases read
      exact .ended
    | failed cause => cases read
    | chunk part rest ih =>
      by_cases empty : part = []
      · subst empty
        cases read
        exact .empty
      · rw [readAll_chunk empty] at read
        cases later : rest.readAll with
        | error fault => simp [later, Except.map] at read
        | ok bytes =>
          rw [later] at read
          cases read
          exact .chunk empty (ih later)
  · intro delivers
    induction delivers with
    | ended => rfl
    | empty => rfl
    | chunk more _ ih =>
      rw [readAll_chunk more, ih]
      rfl

theorem readAll_eq_error_iff (stream : ByteStream) :
    stream.readAll = .error fault ↔ ∃ cause, stream.Breaks cause ∧ fault = .readFailed cause := by
  constructor
  · intro read
    induction stream with
    | ended => cases read
    | failed cause =>
      cases read
      exact ⟨cause, .now, rfl⟩
    | chunk part rest ih =>
      by_cases empty : part = []
      · subst empty
        cases read
      · rw [readAll_chunk empty] at read
        cases later : rest.readAll with
        | error first =>
          rw [later] at read
          cases read
          obtain ⟨cause, breaks, same⟩ := ih later
          exact ⟨cause, .later empty breaks, same⟩
        | ok bytes => simp [later, Except.map] at read
  · rintro ⟨cause, breaks, rfl⟩
    induction breaks with
    | now => rfl
    | later more _ ih =>
      rw [readAll_chunk more, ih]
      rfl

/-- The bytes of a source are those of a text, in UTF-8 or, if they are not UTF-8, in
ISO-8859-1. -/
def Carries (stream : ByteStream) (text : String) : Prop :=
  ∃ bytes, stream.Delivers bytes ∧ (Document.decode bytes).value = text

end ByteStream

namespace Document

theorem carries_whole (text : String) : (ByteStream.whole (Text.Utf8.encode text)).Carries text := by
  refine ⟨Text.Utf8.encode text, ?_, ?_⟩
  · exact (ByteStream.readAll_eq_ok_iff _).mp (ByteStream.readAll_whole _)
  · rw [decode, Text.Utf8.decode?_encode]

theorem ofStream_of_carries {stream : ByteStream} {text : String} (carries : stream.Carries text) :
    (ofStream stream).value = (parse text).mapError Fault.malformed := by
  obtain ⟨bytes, delivers, rfl⟩ := carries
  rw [ofStream, (stream.readAll_eq_ok_iff).mpr delivers]
  rfl

private theorem named_of_content (held : tree.content? path = some bytes) : path ≠ "" := by
  rintro rfl
  cases held

private theorem ofFile_of_opened {reader : ByteStream} (held : tree.content? path = some bytes)
    (opened : access bytes = .ok reader) :
    (ofFile tree path access).value = (ofStream reader).value := by
  simp only [ofFile, if_neg (named_of_content held), held, opened, Report.andThen_value]
  cases (ofStream reader).value <;> rfl

end Document

namespace Source

/-- What a source gives: the entries of its text if all its bytes arrive and the text is well
formed, or the reason why it has none. -/
inductive Gives (defaultPath : Option String) (tree : Files.Tree) (access : Access) :
    Source → Except Fault (List Document.Entry) → Prop where
  | wellFormed {reader : ByteStream} {bytes : Text.Bytes} {entries : List Document.Entry}
      (arrives : reader.Delivers bytes)
      (parsed : Document.parse (Document.decode bytes).value = .ok entries) :
      Gives defaultPath tree access (.stream reader) (.ok entries)
  | malformed {reader : ByteStream} {bytes : Text.Bytes} {fault : Document.Malformed}
      (arrives : reader.Delivers bytes)
      (parsed : Document.parse (Document.decode bytes).value = .error fault) :
      Gives defaultPath tree access (.stream reader) (.error (.malformed fault))
  | broken {reader : ByteStream} {cause : String} (breaks : reader.Breaks cause) :
      Gives defaultPath tree access (.stream reader) (.error (.readFailed cause))
  | nameless : Gives defaultPath tree access (.file "") (.error .emptyPath)
  | absent {path : String} (named : path ≠ "") (nothing : tree.content? path = none) :
      Gives defaultPath tree access (.file path) (.error (.unreadable path))
  | closed {path cause : String} {bytes : Text.Bytes} (held : tree.content? path = some bytes)
      (closed : access bytes = .error cause) :
      Gives defaultPath tree access (.file path) (.error (.unreadable path))
  | file {path : String} {bytes : Text.Bytes} {reader : ByteStream}
      {result : Except Fault (List Document.Entry)} (held : tree.content? path = some bytes)
      (opened : access bytes = .ok reader)
      (gives : Gives defaultPath tree access (.stream reader) result) :
      Gives defaultPath tree access (.file path) result
  | unknown (unknown : defaultPath = none) :
      Gives defaultPath tree access .default (.error .noDefaultPath)
  | default {path : String} {result : Except Fault (List Document.Entry)}
      (known : defaultPath = some path) (gives : Gives defaultPath tree access (.file path) result) :
      Gives defaultPath tree access .default result

private theorem gives_stream (reader : ByteStream) :
    Gives defaultPath tree access (.stream reader) (Document.ofStream reader).value := by
  rw [Document.ofStream]
  cases read : reader.readAll with
  | error fault =>
    obtain ⟨cause, breaks, rfl⟩ := (reader.readAll_eq_error_iff).mp read
    exact .broken breaks
  | ok bytes =>
    have arrives := (reader.readAll_eq_ok_iff).mp read
    simp only [Document.ofBytes, Report.map]
    cases parsed : Document.parse (Document.decode bytes).value with
    | error fault => exact .malformed arrives parsed
    | ok entries => exact .wellFormed arrives parsed

private theorem gives_file (path : String) :
    Gives defaultPath tree access (.file path) (Document.ofFile tree path access).value := by
  by_cases nameless : path = ""
  · subst nameless
    exact .nameless
  · cases held : tree.content? path with
    | none =>
      simp only [Document.ofFile, if_neg nameless, held]
      exact .absent nameless held
    | some bytes =>
      cases opened : access bytes with
      | error cause =>
        simp only [Document.ofFile, if_neg nameless, held, opened]
        exact .closed held opened
      | ok reader =>
        rw [Document.ofFile_of_opened held opened]
        exact .file held opened (gives_stream reader)

private theorem gives_reading (source : Source) :
    Gives defaultPath tree access source (source.reading defaultPath tree access).value := by
  cases source with
  | stream reader => exact gives_stream reader
  | file path => exact gives_file path
  | default =>
    cases defaultPath with
    | none => exact .unknown rfl
    | some path => exact .default rfl (gives_file path)

theorem gives_iff (source : Source) (result : Except Fault (List Document.Entry)) :
    Gives defaultPath tree access source result ↔
      (source.reading defaultPath tree access).value = result := by
  constructor
  · intro gives
    induction gives with
    | wellFormed arrives parsed =>
      rw [reading, Document.ofStream, (ByteStream.readAll_eq_ok_iff _).mpr arrives]
      simp only [Document.ofBytes, Report.map, parsed]
      rfl
    | malformed arrives parsed =>
      rw [reading, Document.ofStream, (ByteStream.readAll_eq_ok_iff _).mpr arrives]
      simp only [Document.ofBytes, Report.map, parsed]
      rfl
    | broken breaks =>
      rw [reading, Document.ofStream, (ByteStream.readAll_eq_error_iff _).mpr ⟨_, breaks, rfl⟩]
    | nameless => rfl
    | absent named nothing => simp only [reading, Document.ofFile, if_neg named, nothing]
    | closed held closed =>
      simp only [reading, Document.ofFile, if_neg (Document.named_of_content held), held, closed]
    | file held opened _ ih =>
      rw [reading, Document.ofFile_of_opened held opened]
      exact ih
    | unknown unknown =>
      subst unknown
      rfl
    | default known _ ih =>
      subst known
      exact ih
  · rintro rfl
    exact gives_reading source

end Source

namespace Store

theorem loadStream_of_carries (store : Store) {stream : ByteStream} {text : String}
    (carries : stream.Carries text) (parsed : Document.parse text = .ok entries) :
    (store.loadStream stream).value = .ok (store.merge entries) := by
  rw [loadStream, load, Report.andThen_value, Document.ofStream_of_carries carries, parsed]
  rfl

private theorem loadFrom_eq (store : Store) (tree : Files.Tree) (access : Access)
    (source : Source) :
    store.loadFrom tree access source =
      store.load (source.reading store.defaultPath tree access) := by
  cases source with
  | stream reader => rfl
  | file path => rfl
  | default =>
    simp only [loadFrom, loadDefault, Source.reading]
    cases store.defaultPath <;> rfl

end Store

namespace InPlace

private theorem run_setAll (entries : List Document.Entry) (store : Store) :
    (setAll entries).run store = (.ok (), store.merge entries) := by
  induction entries generalizing store with
  | nil => rfl
  | cons entry rest ih => exact ih (store.set entry.1 entry.2)

/-- Nothing is done to the store before the source is read to its end. -/
theorem run_load (source : Source) (store : Store) :
    (load tree access source).run store =
      match (source.reading store.defaultPath tree access).value with
      | .error fault => (.error fault, store)
      | .ok entries => (.ok (), store.merge entries) := by
  have opened : (load tree access source).run store =
      (liftExcept (source.reading store.defaultPath tree access).value >>= setAll :
        InPlace Unit).run store :=
    rfl
  rw [opened]
  cases (source.reading store.defaultPath tree access).value with
  | error fault => rfl
  | ok entries => exact run_setAll entries store

/-- A load either fails, for the reason that its source gives, and leaves the store as it was, or
gives each key the value of the last entry that its source has for the key, and leaves the
other keys. To repeat it changes nothing then. -/
theorem load_allOrNothing (source : Source) (store : Store) :
    match (load tree access source).run store with
    | (.error fault, after) =>
      (store.loadFrom tree access source).value = .error fault ∧
        source.Gives store.defaultPath tree access (.error fault) ∧ after = store
    | (.ok (), after) =>
      (store.loadFrom tree access source).value = .ok after ∧
        (∃ entries, source.Gives store.defaultPath tree access (.ok entries) ∧
          ∀ key, after.get? key = (Document.lastValue? key entries).or (store.get? key)) ∧
        (load tree access source).run after = (.ok (), after) := by
  have loaded := store.loadFrom_eq tree access source
  rw [run_load, loaded, Store.load, Report.andThen_value]
  cases read : (source.reading store.defaultPath tree access).value with
  | error fault => exact ⟨rfl, (source.gives_iff _).mpr read, rfl⟩
  | ok entries =>
    have again : (store.merge entries).merge entries = store.merge entries := by
      rw [Store.merge, Store.merge, Properties.overlay_overlay]
    have same : (store.merge entries).defaultPath = store.defaultPath := rfl
    refine ⟨rfl, ⟨entries, (source.gives_iff _).mpr read, ?_⟩, ?_⟩
    · exact store.properties.getElem?_overlay entries
    · simp only [run_load, same, read, again]

end InPlace

end PropertyStore
