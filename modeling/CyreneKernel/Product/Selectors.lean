import Mathlib.Data.List.ReduceOption
import CyreneKernel.Lib.Checks
import CyreneKernel.Lib.Text

/-!
# Scope selectors of product operations

An operation binds places of its JSON bodies to the organization, the workspace or the resource of
the call.  A place is a JSON pointer in which `*` stands for every item of an array or an object.
The selection follows the pointer level by level, and forgets the items that lack the next segment.
A body is accepted when every item that is left has the bound identifier, so an item without the
bound field passes together with one that has it.

## Main results

* `scopeBindings_cover_iff`: the selectors of an accepted body cover every place exactly if no
  place is missing.
* `scopeBindings_skip_item`: an accepted body with an item that lacks the bound field.
-/

namespace CyreneKernel.Product

open Lib

/-- A JSON value.  The entries of an object have distinct keys. -/
inductive Value
  | null
  | bool (value : Bool)
  | number (text : String)
  | string (text : String)
  | array (items : List Value)
  | object (entries : List (String × Value))

def Value.asStr : Value → Option String
  | .string text => some text
  | _ => none

inductive ProductInvocationError
  | invalidRequest
  | permissionDenied
  | notFound
  | conflict
  | failedPrecondition
  | unavailable
  | internal
deriving DecidableEq

inductive MatchContextField
  | organizationId
  | workspaceId
  | resourceId
deriving DecidableEq

structure JsonScopeBinding where
  jsonPointer : String
  matchField : MatchContextField
deriving DecidableEq

def unescapePointerSegment : List Char → Except ProductInvocationError (List Char)
  | [] => .ok []
  | '~' :: '0' :: rest => (unescapePointerSegment rest).map ('~' :: ·)
  | '~' :: '1' :: rest => (unescapePointerSegment rest).map ('/' :: ·)
  | '~' :: _ => .error .invalidRequest
  | c :: rest => (unescapePointerSegment rest).map (c :: ·)

/-- The segments of a pointer. -/
def pointerSegments (pointer : String) : Except ProductInvocationError (List String) := do
  failIf (pointer.utf8ByteSize > 1024 ∨ pointer.toList.head? ≠ some '/') .invalidRequest
  let segments ← ((pointer.toList.splitOn '/').drop 1).mapM unescapePointerSegment
  failIf (segments.length > 64) .invalidRequest
  return segments.map String.ofList

/-- The values that one value contributes to the next level. -/
def Value.children (segment : String) : Value → Except ProductInvocationError (List Value)
  | .array items =>
    if segment = "*" then .ok items
    else do
      let index ← foundOr (parseNat (2 ^ 64) segment.toList) .invalidRequest
      return items[index]?.toList
  | .object entries =>
    if segment = "*" then .ok (entries.map (·.2)) else .ok (entries.lookup segment).toList
  | _ => .ok []

/-- The values that a segment selects in those of a level; their number is bounded. -/
def selectLevel (segment : String) (current : List Value) :
    Except ProductInvocationError (List Value) :=
  current.foldlM (fun next value => do
    let next := next ++ (← value.children segment)
    failIf (next.length > 16384) .invalidRequest
    return next) []

/-- The values that a pointer selects; one that selects none is refused. -/
def selectJsonPointer (root : Value) (pointer : String) :
    Except ProductInvocationError (List Value) := do
  let selected ← (← pointerSegments pointer).foldlM (fun current segment =>
    selectLevel segment current) [root]
  failIf (selected = []) .invalidRequest
  return selected

section Bindings

variable (organizationId workspaceId : String) (resourceId : Option String)

def JsonScopeBinding.expected (binding : JsonScopeBinding) : Except ProductInvocationError String :=
  match binding.matchField with
  | .organizationId => .ok organizationId
  | .workspaceId => .ok workspaceId
  | .resourceId => foundOr resourceId .invalidRequest

/-- Every value that a binding selects in a body is the identifier that the scope of the call has.
-/
def validateScopeBindings (bindings : List JsonScopeBinding) (value : Option Value) :
    Except ProductInvocationError Unit :=
  if bindings = [] then .ok ()
  else do
    let value ← foundOr value .invalidRequest
    bindings.forM fun binding => do
      let expected ← binding.expected organizationId workspaceId resourceId
      let selected ← selectJsonPointer value binding.jsonPointer
      failIf (selected = [] ∨ ∃ candidate ∈ selected, candidate.asStr ≠ some expected)
        .invalidRequest

/-! ### The places of a pointer -/

/-- The places that a segment names in a value, where a place may be missing. -/
def Value.places (segment : String) : Value → List (Option Value)
  | .array items =>
    if segment = "*" then items.map some
    else [(parseNat (2 ^ 64) segment.toList).bind (items[·]?)]
  | .object entries =>
    if segment = "*" then entries.map (some ·.2) else [entries.lookup segment]
  | _ => [none]

/-- The places of a value that a pointer expands to. -/
def Value.expand (value : Value) : List String → List (Option Value)
  | [] => [some value]
  | first :: rest => (value.places first).flatMap fun place =>
    match place with
    | some child => child.expand rest
    | none => [none]

/-- There is a place, and all of them have the bound identifier. -/
def Covers (value : Option Value) (binding : JsonScopeBinding) : Prop :=
  ∃ root segments expected, value = some root ∧ pointerSegments binding.jsonPointer = .ok segments ∧
    binding.expected organizationId workspaceId resourceId = .ok expected ∧
    root.expand segments ≠ [] ∧ ∀ place ∈ root.expand segments, ∃ found, place = some found ∧
      found.asStr = some expected

end Bindings

/-- No place of the pointer is missing. -/
def Complete (value : Option Value) (binding : JsonScopeBinding) : Prop :=
  ∀ root segments, value = some root → pointerSegments binding.jsonPointer = .ok segments →
    none ∉ root.expand segments

/-! ### What the selection keeps -/

variable {segment : String} {segments : List String} {value : Value} {current selected : List Value}

theorem children_eq_ok (h : value.children segment = .ok selected) :
    selected = (value.places segment).reduceOption := by
  cases value with
  | array items =>
    simp only [Value.children, Value.places] at h ⊢
    split_ifs at h ⊢ with hstar
    · simpa [List.reduceOption, List.filterMap_map] using (Except.ok.inj h).symm
    · simp only [except_bind_eq_ok, foundOr_eq_ok, except_pure_eq_ok] at h
      obtain ⟨index, hindex, rfl⟩ := h
      rw [hindex, Option.bind_some]
      cases items[index]? <;> rfl
  | object entries =>
    simp only [Value.children, Value.places] at h ⊢
    split_ifs at h ⊢ with hstar
    · simpa [List.reduceOption, List.filterMap_map, Function.comp_def] using (Except.ok.inj h).symm
    · obtain rfl := Except.ok.inj h
      cases entries.lookup segment <;> rfl
  | null | bool | number | string =>
    simpa [Value.children, Value.places] using (Except.ok.inj h).symm

theorem selectLevel_eq_ok (h : selectLevel segment current = .ok selected) :
    selected = current.flatMap fun value => (value.places segment).reduceOption := by
  suffices hfold : ∀ start, current.foldlM (fun next value => do
      let next := next ++ (← value.children segment)
      failIf (next.length > 16384) ProductInvocationError.invalidRequest
      return next) start = .ok selected →
      selected = start ++ current.flatMap fun value => (value.places segment).reduceOption by
    simpa using hfold [] h
  clear h
  induction current with
  | nil =>
    intro start h
    simpa using (Except.ok.inj h).symm
  | cons value current ih =>
    intro start h
    simp only [List.foldlM_cons, except_bind_eq_ok, except_pure_eq_ok] at h
    obtain ⟨next, ⟨children, hchildren, -, -, rfl⟩, hrest⟩ := h
    rw [ih _ hrest, children_eq_ok hchildren, List.flatMap_cons, List.append_assoc]

/-- The selection keeps the places that are not missing. -/
theorem selectLevels_eq_ok (h : segments.foldlM (fun current segment =>
    selectLevel segment current) current = .ok selected) :
    selected = current.flatMap fun value => (value.expand segments).reduceOption := by
  induction segments generalizing current with
  | nil =>
    obtain rfl := Except.ok.inj h
    simp [Value.expand]
  | cons segment segments ih =>
    simp only [List.foldlM_cons, except_bind_eq_ok] at h
    obtain ⟨next, hnext, hrest⟩ := h
    rw [ih hrest, selectLevel_eq_ok hnext, List.flatMap_assoc]
    refine List.flatMap_congr fun value _ => ?_
    rw [Value.expand]
    induction value.places segment with
    | nil => rfl
    | cons place places ih =>
      cases place <;> simp [List.reduceOption_append, ih]

theorem selectJsonPointer_eq_ok {pointer : String}
    (h : selectJsonPointer value pointer = .ok selected) :
    ∃ segments, pointerSegments pointer = .ok segments ∧
      selected = (value.expand segments).reduceOption := by
  simp only [selectJsonPointer, except_bind_eq_ok, except_pure_eq_ok] at h
  obtain ⟨segments, hsegments, _, hselected, -, -, rfl⟩ := h
  exact ⟨segments, hsegments, by simpa using selectLevels_eq_ok hselected⟩

/-- The selectors of an accepted body cover every place exactly if no place is missing. -/
theorem scopeBindings_cover_iff (organizationId workspaceId : String) (resourceId : Option String)
    (bindings : List JsonScopeBinding) (value : Option Value)
    (h : validateScopeBindings organizationId workspaceId resourceId bindings value = .ok ()) :
    (∀ binding ∈ bindings, Covers organizationId workspaceId resourceId value binding) ↔
      ∀ binding ∈ bindings, Complete value binding := by
  refine forall₂_congr fun binding hbinding => ?_
  rw [validateScopeBindings, if_neg (List.ne_nil_of_mem hbinding)] at h
  simp only [except_bind_eq_ok, foundOr_eq_ok] at h
  obtain ⟨root, rfl, h⟩ := h
  have hchecked := forM_eq_ok.1 h _ hbinding
  simp only [except_bind_eq_ok, failIf_eq_ok, not_or, not_exists, not_and, not_not] at hchecked
  obtain ⟨expected, hexpected, selected, hselected, hne, hall⟩ := hchecked
  obtain ⟨segments, hsegments, rfl⟩ := selectJsonPointer_eq_ok hselected
  constructor
  · rintro ⟨_, _, _, hroot, hsegments, -, -, hfound⟩ root' segments' hroot' hsegments' hmissing
    obtain rfl := Option.mem_unique hroot hroot'
    obtain rfl := Except.ok.inj (hsegments.symm.trans hsegments')
    obtain ⟨_, hnone, -⟩ := hfound none hmissing
    cases hnone
  · intro hcomplete
    refine ⟨root, segments, expected, rfl, hsegments, hexpected, ?_, fun place hplace => ?_⟩
    · rintro hnil
      simp [hnil] at hne
    · cases place with
      | none => exact absurd hplace (hcomplete root segments rfl hsegments)
      | some found => exact ⟨found, rfl, hall found (List.reduceOption_mem_iff.2 hplace)⟩

/-! ### Bodies with two items -/

def itemBinding : JsonScopeBinding := ⟨"/items/*/workspaceId", .workspaceId⟩

def itemBody (items : List Value) : Value := .object [("items", .array items)]

def coveredBody : Value :=
  itemBody [.object [("workspaceId", .string "w")], .object [("workspaceId", .string "w")]]

def skippingBody : Value := itemBody [.object [("workspaceId", .string "w")], .object []]

theorem pointerSegments_itemBinding :
    pointerSegments itemBinding.jsonPointer = .ok ["items", "*", "workspaceId"] := by
  decide +kernel

theorem scopeBindings_cover_two_items :
    Covers "o" "w" none (some coveredBody) itemBinding := by
  refine (scopeBindings_cover_iff "o" "w" none [itemBinding] (some coveredBody)
    (by decide +kernel)).2 ?_ itemBinding (by simp)
  rintro binding hbinding root segments hroot hsegments
  obtain rfl := List.mem_singleton.1 hbinding
  obtain rfl := Option.some.inj hroot
  obtain rfl := Except.ok.inj (hsegments.symm.trans pointerSegments_itemBinding)
  have hplaces : coveredBody.expand ["items", "*", "workspaceId"] =
      [some (.string "w"), some (.string "w")] := rfl
  simp [hplaces]

/-- The second item lacks the bound field. -/
theorem scopeBindings_skip_item :
    validateScopeBindings "o" "w" none [itemBinding] (some skippingBody) = .ok () ∧
      ¬ Covers "o" "w" none (some skippingBody) itemBinding := by
  refine ⟨by decide +kernel, ?_⟩
  rintro ⟨root, segments, expected, hroot, hsegments, -, -, hfound⟩
  obtain rfl := Option.some.inj hroot
  obtain rfl := Except.ok.inj (hsegments.symm.trans pointerSegments_itemBinding)
  have hplaces : skippingBody.expand ["items", "*", "workspaceId"] =
      [some (.string "w"), none] := rfl
  obtain ⟨_, hnone, -⟩ := hfound none (by simp [hplaces])
  cases hnone

end CyreneKernel.Product
