import PropertyStore.Proofs.Document.RoundTrip
import PropertyStore.Proofs.Store.Interleaving
import PropertyStore.Proofs.Store.Loading
import PropertyStore.Store.Request

namespace PropertyStore

variable {defaultPath : Option String} {key : String} {outcome : Option String}
  {request : Request} {requests : List Request}

/-- What an operation makes of a key that it is about: a value, or that it has none. -/
inductive Operation.Writes : Operation → (key : String) → Option String → Prop where
  | set {key value : String} : Writes (.set key value) key (some value)
  | setOptional {key : String} {value : Option String} :
      Writes (.setOptional key value) key (some (value.getD ""))
  | setBool {key : String} {value : Bool} :
      Writes (.setBool key value) key (some (if value then "true" else "false"))
  | setExpression {key value : String} (first : '=' ∉ key.toList) :
      Writes (.setExpression (key ++ "=" ++ value)) key (some value)
  | remove {key : String} : Writes (.remove key) key none
  | clear {key : String} : Writes .clear key none
  | merge {key value : String} {entries : List Document.Entry}
      (last : Document.lastValue? key entries = some value) :
      Writes (.merge entries) key (some value)

/-- What a request makes of a key that it is about. A load is about the keys that its source has
entries for, unless it fails. -/
inductive Request.Writes (defaultPath : Option String) :
    Request → (key : String) → Option String → Prop where
  | operate {operation : Operation} {key : String} {outcome : Option String}
      (writes : operation.Writes key outcome) : Writes defaultPath (.operate operation) key outcome
  | load {tree : Files.Tree} {access : Access} {source : Source} {entries : List Document.Entry}
      {key value : String} (gives : source.Gives defaultPath tree access (.ok entries))
      (last : Document.lastValue? key entries = some value) :
      Writes defaultPath (.load tree access source) key (some value)

/-- What the last of the requests that is about a key makes of it. To clear the store is to be
about every key, so none of the requests before that has a say. -/
inductive LastWrite (defaultPath : Option String) (key : String) :
    List Request → Option String → Prop where
  | never {requests : List Request}
      (untouched : ∀ request ∈ requests, ∀ outcome, ¬ request.Writes defaultPath key outcome) :
      LastWrite defaultPath key requests none
  | last {before after : List Request} {request : Request} {outcome : Option String}
      (writes : request.Writes defaultPath key outcome)
      (untouched : ∀ later ∈ after, ∀ outcome, ¬ later.Writes defaultPath key outcome) :
      LastWrite defaultPath key (before ++ request :: after) outcome

theorem Operation.Writes.get? {operation : Operation} (writes : operation.Writes key outcome)
    (store : Store) : (store.perform operation).get? key = outcome := by
  cases writes with
  | set => simp [Store.perform]
  | setOptional => simp [Store.perform, Store.setOptional]
  | setBool => simp [Store.perform, Store.setBool]
  | setExpression first =>
    rw [Store.perform_setExpression, (Store.splitExpression?_eq_some_iff _ _ _).mpr ⟨first, rfl⟩]
    simp
  | remove => simp [Store.perform]
  | clear => simp [Store.perform]
  | merge last =>
    rw [Store.perform, Store.get?, Store.merge, Properties.getElem?_overlay, last, Option.some_or]

theorem Operation.Touches.writes {operation : Operation} (touches : operation.Touches key) :
    ∃ outcome, operation.Writes key outcome := by
  cases operation with
  | set other value =>
    obtain rfl : other = key := touches
    exact ⟨_, .set⟩
  | setOptional other value =>
    obtain rfl : other = key := touches
    exact ⟨_, .setOptional⟩
  | setBool other value =>
    obtain rfl : other = key := touches
    exact ⟨_, .setBool⟩
  | setExpression expression =>
    obtain ⟨value, states⟩ := touches
    obtain ⟨first, rfl⟩ := (Store.splitExpression?_eq_some_iff _ _ _).mp states
    exact ⟨_, .setExpression first⟩
  | remove other =>
    obtain rfl : other = key := touches
    exact ⟨_, .remove⟩
  | clear => exact ⟨_, .clear⟩
  | merge entries =>
    obtain ⟨value, member⟩ := touches
    cases last : Document.lastValue? key entries with
    | none => exact absurd member ((Document.lastValue?_eq_none_iff key entries).mp last value)
    | some value => exact ⟨_, .merge last⟩

/-- An expression is looked at before anything is done to the store. -/
theorem InPlace.run_setExpression (expression : String) (store : Store) :
    (operate (.setExpression expression)).run store =
      match store.setExpression expression with
      | .error fault => (.error fault, store)
      | .ok changed => (.ok (), changed) := by
  have opened : (operate (.setExpression expression)).run store =
      (liftExcept (store.setExpression expression) >>= MonadStateOf.set :
        InPlace Unit).run store :=
    rfl
  rw [opened]
  cases store.setExpression expression <;> rfl

theorem InPlace.run_setExpressions_cons (expression : String) (rest : List String) (store : Store) :
    (setExpressions (expression :: rest)).run store =
      match store.setExpression expression with
      | .error fault => (.error fault, store)
      | .ok changed => (setExpressions rest).run changed := by
  have opened : (setExpressions (expression :: rest)).run store =
      let first := (operate (.setExpression expression)).run store
      ExceptT.bindCont (fun _ => setExpressions rest) first.1 first.2 :=
    rfl
  rw [opened, run_setExpression]
  cases store.setExpression expression <;> rfl

theorem Store.exists_splitExpression? {expression : String} (cut : '=' ∈ expression.toList) :
    ∃ entry, splitExpression? expression = some entry := by
  rw [← List.contains_iff_mem, ← Text.isSome_cutAt?, Option.isSome_iff_exists] at cut
  obtain ⟨⟨key, value⟩, cut⟩ := cut
  exact ⟨_, by rw [splitExpression?, cut, Option.map_some]⟩

/-- Expressions that all have a `=` set what they state, whatever file the store belongs to. -/
theorem InPlace.run_setExpressions (expressions : List String) (store : Store)
    (complete : ∀ expression ∈ expressions, '=' ∈ expression.toList) :
    (setExpressions expressions).run store = (.ok (), { store with
      properties := store.properties.overlay (expressions.filterMap Store.splitExpression?) }) := by
  induction expressions generalizing store with
  | nil => rfl
  | cons expression rest ih =>
    obtain ⟨entry, split⟩ := Store.exists_splitExpression? (complete expression List.mem_cons_self)
    rw [run_setExpressions_cons, Store.setExpression, split, List.filterMap_cons_some split]
    exact ih _ fun other member => complete other (List.mem_cons_of_mem _ member)

namespace Store

theorem serve_operate (store : Store) (operation : Operation) :
    store.serve (.operate operation) = store.perform operation := by
  cases operation with
  | setExpression expression =>
    rw [serve, InPlace.serve, InPlace.run_setExpression, perform]
    cases store.setExpression expression <;> rfl
  | _ => rfl

theorem serve_load (store : Store) (tree : Files.Tree) (access : Access) (source : Source) :
    store.serve (.load tree access source) =
      match (source.reading store.defaultPath tree access).value with
      | .error _ => store
      | .ok entries => store.merge entries := by
  rw [serve, InPlace.serve, InPlace.run_load]
  cases (source.reading store.defaultPath tree access).value <;> rfl

private theorem serve_of_fault (store : Store) {fault : Fault}
    (failed : ((InPlace.serve request).run store).1 = .error fault) :
    store.serve request = store := by
  cases request with
  | operate operation =>
    cases operation with
    | setExpression expression =>
      rw [InPlace.serve, InPlace.run_setExpression] at failed
      rw [serve, InPlace.serve, InPlace.run_setExpression]
      cases stated : store.setExpression expression with
      | error fault => rfl
      | ok changed => simp [stated] at failed
    | _ => cases failed
  | load tree access source =>
    rw [InPlace.serve, InPlace.run_load] at failed
    rw [serve_load]
    cases read : (source.reading store.defaultPath tree access).value with
    | error fault => rfl
    | ok entries => simp [read] at failed

@[simp] theorem defaultPath_serve (store : Store) (request : Request) :
    (store.serve request).defaultPath = store.defaultPath := by
  cases request with
  | operate operation =>
    rw [serve_operate]
    cases operation with
    | setExpression expression =>
      rw [perform_setExpression]
      cases splitExpression? expression <;> rfl
    | _ => rfl
  | load tree access source =>
    rw [serve_load]
    cases (source.reading store.defaultPath tree access).value <;> rfl

private theorem serveAll_append (store : Store) (first second : List Request) :
    store.serveAll (first ++ second) = (store.serveAll first).serveAll second :=
  List.foldl_append

@[simp] theorem defaultPath_serveAll (store : Store) (requests : List Request) :
    (store.serveAll requests).defaultPath = store.defaultPath := by
  induction requests generalizing store with
  | nil => rfl
  | cons request rest ih => exact (ih (store.serve request)).trans (store.defaultPath_serve request)

/-- A key has what a request that is about it makes of it. -/
theorem get?_serve (store : Store) (writes : request.Writes store.defaultPath key outcome) :
    (store.serve request).get? key = outcome := by
  cases writes with
  | operate writes =>
    rw [serve_operate]
    exact writes.get? store
  | load gives last =>
    rw [serve_load, (Source.gives_iff _ _).mp gives]
    exact (Operation.Writes.merge last).get? store

theorem get?_serve_of_untouched (store : Store)
    (untouched : ∀ outcome, ¬ request.Writes store.defaultPath key outcome) :
    (store.serve request).get? key = store.get? key := by
  cases request with
  | operate operation =>
    rw [serve_operate]
    refine store.get?_perform fun touches => ?_
    obtain ⟨outcome, writes⟩ := touches.writes
    exact untouched outcome (.operate writes)
  | load tree access source =>
    rw [serve_load]
    cases read : (source.reading store.defaultPath tree access).value with
    | error fault => rfl
    | ok entries =>
      have gives := (source.gives_iff _).mpr read
      have untouched : ¬ (Operation.merge entries).Touches key := by
        intro touches
        obtain ⟨outcome, writes⟩ := touches.writes
        cases writes with
        | merge last => exact untouched _ (.load gives last)
      exact store.get?_perform untouched

private theorem get?_serveAll_of_untouched (store : Store)
    (untouched : ∀ request ∈ requests, ∀ outcome, ¬ request.Writes store.defaultPath key outcome) :
    (store.serveAll requests).get? key = store.get? key := by
  induction requests generalizing store with
  | nil => rfl
  | cons request rest ih =>
    obtain ⟨first, others⟩ := List.forall_mem_cons.mp untouched
    rw [← store.defaultPath_serve request] at others
    exact (ih (store.serve request) others).trans (store.get?_serve_of_untouched first)

private theorem get?_of_lastWrite (store : Store) (absent : store.get? key = none)
    (last : LastWrite store.defaultPath key requests outcome) :
    (store.serveAll requests).get? key = outcome := by
  cases last with
  | never untouched => rw [get?_serveAll_of_untouched _ untouched, absent]
  | @last before after request _ writes untouched =>
    have served : store.serveAll (before ++ request :: after) =
        ((store.serveAll before).serve request).serveAll after :=
      store.serveAll_append before (request :: after)
    -- No request changes the default path, so the loads among them are about the same file.
    have same : ((store.serveAll before).serve request).defaultPath = store.defaultPath := by simp
    rw [← same] at untouched
    rw [← store.defaultPath_serveAll before] at writes
    rw [served, get?_serveAll_of_untouched _ untouched, get?_serve _ writes]

end Store

private theorem exists_lastWrite (defaultPath : Option String) (key : String)
    (requests : List Request) :
    ∃ outcome, LastWrite defaultPath key requests outcome := by
  induction requests using List.reverseRecOn with
  | nil => exact ⟨none, .never (by simp)⟩
  | append_singleton requests request ih =>
    by_cases writes : ∃ outcome, request.Writes defaultPath key outcome
    · obtain ⟨outcome, writes⟩ := writes
      exact ⟨outcome, .last writes (by simp)⟩
    · rw [not_exists] at writes
      obtain ⟨outcome, last⟩ := ih
      cases last with
      | never untouched =>
        refine ⟨none, .never ?_⟩
        simpa [or_imp, forall_and] using ⟨untouched, writes⟩
      | @last before after earlier _ earlierWrites untouched =>
        rw [List.append_assoc, List.cons_append]
        refine ⟨outcome, .last earlierWrites ?_⟩
        simpa [or_imp, forall_and] using ⟨untouched, writes⟩

namespace Store

/-- All ways to look at a store show the same keys and values. -/
structure Consistent (store : Store) : Prop where
  increasing : store.keys.Pairwise (· < ·)
  listed : store.toList.map Prod.fst = store.keys
  valued : ∀ key value, (key, value) ∈ store.toList ↔ store.get? key = some value
  counted : store.keys.length = store.size
  empty : store.isEmpty = true ↔ store.size = 0
  present : ∀ key, store.contains key = true ↔ (store.get? key).isSome = true
  required : ∀ key, store.contains key = true ↔ store.require key = .ok ()
  named : ∀ key, store.contains key = true ↔ key ∈ store.keys
  defaults : ∀ key, store.contains key = false →
    (∀ default, store.getD key default = default) ∧
    (∀ default, store.getInt key default = .ok default) ∧
    (∀ default, store.getLong key default = .ok default) ∧
    ∀ default, store.getBool key default = default

private theorem consistent (store : Store) : store.Consistent where
  increasing := by
    rw [keys, ← Std.ExtTreeMap.map_fst_toList_eq_keys, List.pairwise_map]
    exact Document.keys_increasing store.properties
  listed := Std.ExtTreeMap.map_fst_toList_eq_keys
  valued _ _ := Std.ExtTreeMap.mem_toList_iff_getElem?_eq_some
  counted := Std.ExtTreeMap.length_keys
  empty := by simp [isEmpty, size, Std.ExtTreeMap.isEmpty_eq_size_beq_zero]
  present _ := Iff.rfl
  required key := by
    rw [require]
    split <;> simp_all
  named key := by
    rw [contains, get?, keys, Std.ExtTreeMap.isSome_getElem?_iff_mem, Std.ExtTreeMap.mem_keys]
  defaults key absent := by
    have none : store.get? key = none := by simpa [contains] using absent
    simp [getD, getInt, getLong, number, getBool, none]

/-- After any requests to an empty store, whether or not they could be met, each key has what the
last request about it made of it, and all ways to look at the store agree. A request that cannot
be met then leaves the store as it is. -/
theorem serveAll_lastWrite (defaultPath loadFailure : Option String) (requests : List Request) :
    let store := ({ defaultPath, loadFailure } : Store).serveAll requests
    (∀ key outcome, store.get? key = outcome ↔ LastWrite defaultPath key requests outcome) ∧
      store.Consistent ∧
      ∀ request fault, ((InPlace.serve request).run store).1 = .error fault →
        store.serve request = store := by
  intro store
  refine ⟨fun key outcome => ?_, store.consistent, fun _ _ failed => store.serve_of_fault failed⟩
  have absent : ({ defaultPath, loadFailure } : Store).get? key = none := by simp [get?]
  constructor
  · rintro rfl
    obtain ⟨outcome, last⟩ := exists_lastWrite defaultPath key requests
    have same : store.get? key = outcome := get?_of_lastWrite _ absent last
    rw [same]
    exact last
  · exact get?_of_lastWrite _ absent

end Store

end PropertyStore
