import PropertyStore.Command.Run
import PropertyStore.Proofs.Store.Holding

namespace PropertyStore.Command

/-- What a command that succeeds makes of a map. -/
def effect (properties : Properties) : Command → Properties
  | .set expressions => properties.overlay (expressions.filterMap Store.splitExpression?)
  | .remove keys => keys.foldl (fun current key => current.erase key) properties
  | .clear => ∅
  | .get _ _ _ | .list _ | .check _ | .version _ => properties

/-- The command is one of those that save the store. -/
def Saves : Command → Prop
  | .set _ | .remove _ | .clear => True
  | .get .. | .list _ | .check _ | .version _ => False

/-- The command gets as far as saving the store: it is one that saves, and it asks for nothing that
cannot be set. -/
def ReachesSave : Command → Prop
  | .set expressions => ∀ expression ∈ expressions, '=' ∈ expression.toList
  | .remove _ | .clear => True
  | .get .. | .list _ | .check _ | .version _ => False

theorem ReachesSave.saves {command : Command} (reaches : command.ReachesSave) : command.Saves := by
  cases command with
  | set _ | remove _ | clear => trivial
  | _ => exact reaches.elim

/-- The word that asks for a command. -/
def word : Command → String
  | .get .. => "get"
  | .set _ => "set"
  | .remove _ => "remove"
  | .list _ => "list"
  | .check _ => "check"
  | .clear => "clear"
  | .version _ => "version"

theorem effect_set (properties : Properties) (key value : String) (plain : '=' ∉ key.toList) :
    effect properties (.set [key ++ "=" ++ value]) = properties.insert key value := by
  have states := (Store.splitExpression?_eq_some_iff _ key value).mpr ⟨plain, rfl⟩
  rw [effect, List.filterMap_cons_some states]
  rfl

/-- What a command that changes nothing says and how it ends. -/
structure Answer where
  result : Except Failure Unit := .ok ()
  lines : List String := []
  complaints : List String := []

/-- The text that a map has for a key, read as a type. -/
def answerText (properties : Properties) (key : String) (default : Option String) :
    ValueType → Except Failure String
  | .text =>
    match properties[key]? <|> default with
    | some text => .ok text
    | none => .error (.store (.missing key))
  | .number width => do
    let otherwise ← defaultNumber width default
    match properties[key]? with
    | none => return Number.render otherwise
    | some text =>
      match Number.parse width text with
      | .ok value => return Number.render value
      | .error cause => .error (.store (.badNumber key text cause))
  | .truth =>
    .ok (if (properties[key]? <|> default).any Store.isTrue then "true" else "false")

/-- The lines that list a map, which is that of the file at a path. -/
def answerLines (path : String) (verbose : Bool) (properties : Properties) : Format → List String
  | .text =>
    (if verbose then [s!"# {path} ({properties.size} 个属性)"] else []) ++
      properties.toList.map fun (key, value) => s!"{key}={value}"
  | .json =>
    [Json.pretty 0 <| .object [
      ("file", .text path),
      ("count", .number properties.size),
      ("properties", .object (properties.toList.map fun (key, value) => (key, .text value)))]]

/-- The answer of a map to whether keys are in it. -/
def answerCheck (properties : Properties) (keys : List String) : Answer :=
  match keys.filter fun key => properties[key]?.isNone with
  | [] => { lines := [s!"✓ {keys.length} 个必需属性均已配置"] }
  | first :: rest =>
    { result := .error (.store (.missing first))
      complaints := (first :: rest).map fun key => s!"✗ 缺少必需属性: {key}" }

/-- The answer of a map, that of the file at a path, to a command that changes nothing. -/
def answer? (path : String) (verbose : Bool) (properties : Properties) : Command → Option Answer
  | .get key default type =>
    match answerText properties key default type with
    | .ok text => some { lines := [text] }
    | .error failure => some { result := .error failure }
  | .list format => some { lines := answerLines path verbose properties format }
  | .check keys => some (answerCheck properties keys)
  | .version format => some { lines := versionLines format }
  | .set _ | .remove _ | .clear => none

variable {tree : Files.Tree} {path : String} {properties : Properties}

open Store (holding)

private theorem get?_holding (path : String) (properties : Properties) (key : String) :
    (holding path properties).get? key = properties[key]? :=
  rfl

private theorem shownValue_holding (path : String) (properties : Properties) (key : String)
    (default : Option String) (type : ValueType) :
    shownValue (holding path properties) key default type =
      answerText properties key default type := by
  cases type with
  | text =>
    cases found : properties[key]? <;> cases default <;>
      simp [shownValue, answerText, requiredText, Store.require, Store.contains, Store.getD,
        get?_holding, found, Except.mapError, bind, Except.bind, pure, Except.pure]
  | number width =>
    cases read : defaultNumber width default with
    | error failure => simp [shownValue, answerText, read, bind, Except.bind]
    | ok otherwise =>
      cases found : properties[key]? with
      | none =>
        simp [shownValue, answerText, read, Store.number, get?_holding, found, Except.mapError,
          bind, Except.bind]
      | some text =>
        cases parsed : Number.parse width text <;>
          simp [shownValue, answerText, read, Store.number, get?_holding, found, parsed,
            Except.mapError, bind, Except.bind, pure, Except.pure]
  | truth =>
    cases found : properties[key]? <;>
      simp [shownValue, answerText, Store.getBool, get?_holding, found]

private theorem listing_holding (path : String) (verbose : Bool) (properties : Properties)
    (format : Format) :
    listing verbose (holding path properties) format = answerLines path verbose properties format := by
  cases format <;> rfl

private theorem checkAll_holding (path : String) (properties : Properties) (keys : List String) :
    (checkAll (holding path properties) keys).value = (answerCheck properties keys).result ∧
      (checkAll (holding path properties) keys).notices =
        (answerCheck properties keys).lines.map Notice.line ++
          (answerCheck properties keys).complaints.map Notice.complaint := by
  have same : (keys.filter fun key => !((holding path properties).require key).isOk) =
      keys.filter fun key => properties[key]?.isNone := by
    apply List.filter_congr
    intro key _
    rw [Store.require, Store.contains, get?_holding]
    cases properties[key]? <;> rfl
  rw [checkAll, answerCheck, same]
  cases keys.filter fun key => properties[key]?.isNone with
  | nil => exact ⟨rfl, rfl⟩
  | cons first rest => exact ⟨rfl, by simp [Function.comp_def]⟩

/-- A command that changes nothing answers for a store as for its map. -/
theorem perform_holding (setting : Setting) {command : Command} {answer : Answer}
    (answered : answer? path setting.verbose properties command = some answer) :
    (perform setting (holding path properties) command).value.result = answer.result ∧
      (perform setting (holding path properties) command).notices =
        answer.lines.map Notice.line ++ answer.complaints.map Notice.complaint := by
  cases command with
  | get key default type =>
    rw [perform, shownValue_holding]
    rw [answer?] at answered
    cases text : answerText properties key default type <;>
      simp only [text, Option.some.injEq] at answered ⊢ <;> subst answered <;> exact ⟨rfl, rfl⟩
  | list format =>
    cases answered
    rw [perform, listing_holding]
    exact ⟨rfl, (List.append_nil _).symm⟩
  | check keys =>
    cases answered
    exact checkAll_holding path properties keys
  | version format =>
    cases answered
    exact ⟨rfl, (List.append_nil _).symm⟩
  | _ => cases answered

end PropertyStore.Command
