/-
What a key says about constraints.

Behind method and path a key shows the text of the constraints, and that text stands for
them exactly: two endpoints of one method and path share a key when their constraints are
the same map of names to values, however they were given, and only then.  Absent
constraints, empty ones and others are never taken for each other.  With what
`method_path_of_key_eq` reads off the front of a key, keys are equal exactly when their
endpoints are.
-/
import Turnstile.Proofs.JsonSame
import Turnstile.Proofs.Key

namespace Turnstile

/-! ### The same constraints -/

namespace Constraints

/-- The same constraints: under every name the same value, or twice none. -/
def Same (c c' : Constraints) : Prop :=
  ∀ name, Option.Rel Json.Same (c.get? name) (c'.get? name)

/-- Constraints have one text exactly when they are the same. -/
theorem text_eq_iff {c c' : Constraints} : c.text = c'.text ↔ c.Same c' := by
  rw [text, text, Json.compact, Json.compact, String.ofList_inj, Json.chars_eq_iff,
    Json.same_object_iff]
  rfl

theorem same_of_get?_eq {c c' : Constraints} (h : ∀ name, c.get? name = c'.get? name) :
    c.Same c' :=
  Json.same_object_iff.mp (Json.same_object_of_lastWrite?_eq h)

theorem isEmpty_iff {c : Constraints} :
    c.isEmpty = true ↔ ∀ name, (c.get? name).isSome = false := by
  obtain ⟨writes⟩ := c
  cases writes with
  | nil => exact iff_of_true rfl fun _ => rfl
  | cons write writes =>
      have hsome : (Json.lastWrite? (write :: writes) write.1).isSome = true :=
        Json.isSome_lastWrite?_of_mem List.mem_cons_self
      exact iff_of_false Bool.false_ne_true
        fun h => Bool.false_ne_true ((h write.1).symm.trans hsome)

theorem Same.isEmpty_eq {c c' : Constraints} (h : c.Same c') : c.isEmpty = c'.isEmpty := by
  rw [Bool.eq_iff_iff, isEmpty_iff, isEmpty_iff]
  exact forall_congr' fun name => by rw [(Json.rel_iff.mp (h name)).1]

end Constraints

namespace Endpoint

theorem tail_eq_iff {constraints constraints' : Option Constraints} :
    tail constraints = tail constraints' ↔
      Option.Rel Constraints.Same constraints constraints' := by
  cases constraints with
  | none => cases constraints' <;> simp [tail]
  | some c =>
      cases constraints' with
      | none => simp [tail]
      | some c' => simp [tail, ← Constraints.text_eq_iff, String.toList_inj]

/-- Absent, empty and other constraints are never the same. -/
theorem isEmpty_eq_of_rel {constraints constraints' : Option Constraints}
    (h : Option.Rel Constraints.Same constraints constraints') :
    constraints.map Constraints.isEmpty = constraints'.map Constraints.isEmpty := by
  cases h with
  | none => rfl
  | some h => rw [Option.map_some, Option.map_some, h.isEmpty_eq]

/-- **Keys of one method and path are equal exactly when the constraints are the same.** -/
theorem key_eq_iff_constraints {method path : String}
    {constraints constraints' : Option Constraints} :
    key method path constraints = key method path constraints' ↔
      Option.Rel Constraints.Same constraints constraints' := by
  rw [← String.toList_inj, toList_key, toList_key, List.append_cancel_left_eq, List.cons.injEq,
    List.append_cancel_left_eq, tail_eq_iff, and_iff_right rfl]

theorem key_eq_iff {method method' path path' : String}
    {constraints constraints' : Option Constraints}
    (hm : ':' ∉ method.toList) (hm' : ':' ∉ method'.toList)
    (hfree : ¬announcement <:+: path.toList) (hfree' : ¬announcement <:+: path'.toList) :
    key method path constraints = key method' path' constraints' ↔
      Text.upper method = Text.upper method' ∧ path = path' ∧
        Option.Rel Constraints.Same constraints constraints' := by
  constructor
  · intro h
    obtain ⟨hmethod, rfl⟩ := method_path_of_key_eq hm hm' hfree hfree' h
    rw [key_congr hmethod] at h
    exact ⟨hmethod, rfl, key_eq_iff_constraints.mp h⟩
  · rintro ⟨hmethod, rfl, hsame⟩
    rw [key_congr hmethod]
    exact key_eq_iff_constraints.mpr hsame

/-! ### Constraints given one by one -/

/-- The endpoint under more constraints, given in order. -/
def constrainAll (e : Endpoint) (given : List (String × Json)) : Endpoint :=
  given.foldl (fun e call => e.constrain call.1 call.2) e

theorem constraints_constrainAll (e : Endpoint) {given : List (String × Json)} (h : given ≠ []) :
    (e.constrainAll given).constraints =
      some { writes := (e.constraints.getD ∅).writes ++ given } := by
  induction given generalizing e with
  | nil => exact absurd rfl h
  | cons call given ih =>
      cases given with
      | nil => rfl
      | cons next given =>
          rw [constrainAll, List.foldl_cons]
          refine (ih _ (List.cons_ne_nil _ _)).trans ?_
          simp [constrain, Constraints.insert]

/-- The order in which constraints of different names are given does not matter. -/
theorem key_constrainAll_perm (method path : String) (e : Endpoint)
    {given given' : List (String × Json)} (h : given.Perm given')
    (hn : (given.map Prod.fst).Nodup) :
    key method path (e.constrainAll given).constraints =
      key method path (e.constrainAll given').constraints := by
  by_cases hgiven : given = []
  · subst hgiven
    rw [List.nil_perm.mp h]
  · have hgiven' : given' ≠ [] := fun hnil => hgiven (List.perm_nil.mp (hnil ▸ h))
    rw [key_eq_iff_constraints, constraints_constrainAll e hgiven,
      constraints_constrainAll e hgiven']
    refine .some (Constraints.same_of_get?_eq fun name => ?_)
    simp only [Constraints.get?, Json.lastWrite?_append, Json.lastWrite?_perm h hn]

theorem constraints_constrainAll_of_none {e : Endpoint} (he : e.constraints = none)
    (given : List (String × Json)) :
    (e.constrainAll given).constraints = if given = [] then none else some { writes := given } := by
  by_cases hgiven : given = []
  · subst hgiven
    exact he
  · rw [constraints_constrainAll e hgiven, he, if_neg hgiven]
    rfl

/-- Constraints given one by one come to what was given last under each name. -/
theorem key_constrainAll_iff (method path : String) {e : Endpoint} (he : e.constraints = none)
    (given given' : List (String × Json)) :
    key method path (e.constrainAll given).constraints =
        key method path (e.constrainAll given').constraints ↔
      ∀ name, Option.Rel Json.Same (Json.lastWrite? given name) (Json.lastWrite? given' name) := by
  rw [key_eq_iff_constraints, constraints_constrainAll_of_none he,
    constraints_constrainAll_of_none he]
  change _ ↔ Constraints.Same { writes := given } { writes := given' }
  cases given with
  | nil =>
      cases given' with
      | nil => exact iff_of_true .none (Constraints.same_of_get?_eq fun _ => rfl)
      | cons => exact iff_of_false (by simp) fun h => Bool.false_ne_true h.isEmpty_eq.symm
  | cons call given =>
      cases given' with
      | nil => exact iff_of_false (by simp) fun h => Bool.false_ne_true h.isEmpty_eq
      | cons => simp

/-- **Keys are canonical.**

* Keys of methods without a colon, and of paths in which no constraints are announced, are
  equal exactly when the methods agree up to case, the paths are equal and the constraints
  are both absent or both present and the same.
* So no two of absent, empty and other constraints share a key, and for one method and path
  both hold whatever these are.
* Constraints given one by one make the same key in whatever order different names come, and
  under each name the value given last is the one that counts. -/
theorem key_canonical :
    (∀ (m₁ m₂ p₁ p₂ : String) (c₁ c₂ : Option Constraints),
      ':' ∉ m₁.toList → ':' ∉ m₂.toList →
      ¬announcement <:+: p₁.toList → ¬announcement <:+: p₂.toList →
        (key m₁ p₁ c₁ = key m₂ p₂ c₂ ↔
          Text.upper m₁ = Text.upper m₂ ∧ p₁ = p₂ ∧ Option.Rel Constraints.Same c₁ c₂) ∧
        (c₁.map Constraints.isEmpty ≠ c₂.map Constraints.isEmpty →
          key m₁ p₁ c₁ ≠ key m₂ p₂ c₂)) ∧
    (∀ (m p : String) (c₁ c₂ : Option Constraints),
      (key m p c₁ = key m p c₂ ↔ Option.Rel Constraints.Same c₁ c₂) ∧
      (c₁.map Constraints.isEmpty ≠ c₂.map Constraints.isEmpty → key m p c₁ ≠ key m p c₂)) ∧
    (∀ (m p : String) (e : Endpoint) (given given' : List (String × Json)),
      (given.Perm given' → (given.map Prod.fst).Nodup →
        key m p (e.constrainAll given).constraints =
          key m p (e.constrainAll given').constraints) ∧
      (e.constraints = none →
        (key m p (e.constrainAll given).constraints =
            key m p (e.constrainAll given').constraints ↔
          ∀ name, Option.Rel Json.Same
            (Json.lastWrite? given name) (Json.lastWrite? given' name)))) := by
  refine ⟨fun m₁ m₂ p₁ p₂ c₁ c₂ hm₁ hm₂ hp₁ hp₂ => ?_, fun m p c₁ c₂ => ?_,
    fun m p e given given' => ?_⟩
  · have hiff := @key_eq_iff m₁ m₂ p₁ p₂ c₁ c₂ hm₁ hm₂ hp₁ hp₂
    exact ⟨hiff, fun hne h => hne (isEmpty_eq_of_rel (hiff.mp h).2.2)⟩
  · exact ⟨key_eq_iff_constraints,
      fun hne h => hne (isEmpty_eq_of_rel (key_eq_iff_constraints.mp h))⟩
  · exact ⟨key_constrainAll_perm m p e, fun he => key_constrainAll_iff m p he given given'⟩

/-- Fields in another order and a value given twice make no difference, and neither does the
case of the method; empty constraints do, and a dash in a path does not. -/
theorem reordered_shares_key :
    ':' ∉ "get".toList ∧ ':' ∉ "GET".toList ∧ ¬announcement <:+: "/a - x".toList ∧
    key "get" "/a - x" (some { writes :=
        [("v", .null), ("host", .object [("b", .string "\""), ("a", .null)]),
          ("v", .array [.bool true])] }) =
      key "GET" "/a - x" (some { writes :=
        [("host", .object [("a", .null), ("b", .string "\"")]), ("v", .array [.bool true])] }) ∧
    key "get" "/a - x" none ≠ key "GET" "/a - x" (some ∅) ∧
    key "get" "/a" (({ methods := [], path := "/a" } : Endpoint).constrainAll
        [("v", .null), ("host", .bool true)]).constraints =
      key "get" "/a" (({ methods := [], path := "/a" } : Endpoint).constrainAll
        [("host", .bool true), ("v", .null)]).constraints ∧
    key "get" "/a" (({ methods := [], path := "/a" } : Endpoint).constrainAll
        [("v", .null), ("host", .null), ("v", .bool true)]).constraints =
      key "get" "/a" (({ methods := [], path := "/a" } : Endpoint).constrainAll
        [("host", .null), ("v", .bool true)]).constraints := by
  obtain ⟨hanyPath, -, hanyOrder⟩ := key_canonical
  have hshared := hanyPath "get" "GET" "/a - x" "/a - x"
  have hhost : Json.Same (.object [("b", .string "\""), ("a", .null)])
      (.object [("a", .null), ("b", .string "\"")]) :=
    Json.same_object_of_lastWrite?_eq (Json.lastWrite?_perm (.swap _ _ _) (by decide))
  have hversion : Json.Same (.array [.bool true]) (.array [.bool true]) :=
    Json.chars_eq_iff.mp rfl
  refine ⟨by decide, by decide, by decide, ?_, ?_, ?_, ?_⟩
  · refine (hshared _ _ (by decide) (by decide) (by decide) (by decide)).1.mpr
      ⟨by decide, rfl, .some fun name => ?_⟩
    by_cases hn : "host" = name ∨ "v" = name
    · obtain rfl | rfl := hn
      · exact .some hhost
      · exact .some hversion
    · simp [Constraints.get?, Json.lastWrite?_cons, not_or.mp hn]
  · exact (hshared none (some ∅) (by decide) (by decide) (by decide) (by decide)).2 (by decide)
  · exact (hanyOrder "get" "/a" _ _ _).1 (.swap _ _ _) (by decide)
  · refine ((hanyOrder "get" "/a" _ _ _).2 rfl).mpr
      (Json.same_object_iff.mp (Json.same_object_of_lastWrite?_eq fun key => ?_))
    simp only [Json.lastWrite?_cons, Json.lastWrite?_nil]
    by_cases hv : "v" = key <;> simp [hv]

end Endpoint

end Turnstile
