import Shipshape.Create.Basic
import Shipshape.Proofs.Dict
import Shipshape.Proofs.Result
import Shipshape.Reconcile.Decision

/-!
# Two readings of an environment

One name can be looked up in a declared environment (`EnvironmentDeclaration.value?`), or the environment can be
read as a whole (`Environment.ofDeclared`), which is what a container gets. Of the values that a list gives to a
name the first one is looked up, and the last one is in the whole. So the two readings agree on a name exactly if
the name is not contested (`readings_agree_iff`).

Proof outline. Both readings are put in terms of the values given to the name, in their order (`valuesOf`): a
look-up is their head, and a dictionary that is filled with the entries holds their last.
-/

namespace Shipshape

namespace EnvironmentDeclaration

/-- The values that a declaration gives to a name, one after the other. -/
def valuesOf : EnvironmentDeclaration → String → List String
  | .object values, key => ((values.get? key).map Json.plainText).toList
  | .entries items, key => Dict.valuesAt (items.filterMap Environment.splitEntry?) key

/-- A name is given several values, and the last one is another than the first one. -/
def Contested (e : EnvironmentDeclaration) (key : String) : Prop :=
  ∃ first between last, e.valuesOf key = first :: (between ++ [last]) ∧ first ≠ last

variable {e : EnvironmentDeclaration} {declared : Dict String} {key : String}

theorem contested_iff : e.Contested key ↔ (e.valuesOf key).head? ≠ (e.valuesOf key).getLast? := by
  constructor
  · rintro ⟨first, between, last, hvalues, hne⟩ heq
    rw [hvalues, List.head?_cons, ← List.cons_append, List.getLast?_concat] at heq
    exact hne (Option.some.inj heq)
  · intro hne
    cases hvalues : e.valuesOf key with
    | nil =>
      rw [hvalues] at hne
      exact absurd rfl hne
    | cons first rest =>
      rw [hvalues] at hne
      rcases rest.eq_nil_or_concat' with rfl | ⟨between, last, rfl⟩
      · exact absurd rfl hne
      · refine ⟨first, between, last, hvalues, fun heq => hne ?_⟩
        rw [heq, List.head?_cons, ← List.cons_append, List.getLast?_concat]

theorem value?_eq_head? (e : EnvironmentDeclaration) (key : String) : e.value? key = (e.valuesOf key).head? := by
  cases e with
  | object values =>
    show (values.get? key).map Json.plainText = ((values.get? key).map Json.plainText).toList.head?
    cases values.get? key with
    | none => rfl
    | some v => rfl
  | entries items => exact Dict.lookup_eq_head?_valuesAt _ key

theorem filterMap_splitEntry?_of_mapM {items : List String} {l : List (String × String)}
    (h : items.mapM Environment.readEntry = .ok l) : items.filterMap Environment.splitEntry? = l := by
  induction items generalizing l with
  | nil =>
    rw [List.mapM_nil] at h
    exact Except.ok.inj h
  | cons item items ih =>
    rw [List.mapM_cons] at h
    obtain ⟨p, hp, h⟩ := Result.bind_eq_ok.1 h
    obtain ⟨rest, hrest, h⟩ := Result.bind_eq_ok.1 h
    have hsplit : Environment.splitEntry? item = some p := by
      unfold Environment.readEntry at hp
      split at hp
      · next hsplit => rw [hsplit, Except.ok.inj hp]
      · cases hp
    rw [List.filterMap_cons_some hsplit, ih hrest]
    exact Except.ok.inj h

theorem get?_ofDeclared_eq_getLast? (h : Environment.ofDeclared e = .ok declared) (key : String) :
    declared.get? key = (e.valuesOf key).getLast? := by
  cases e with
  | object values =>
    rw [← Except.ok.inj h]
    rw [Dict.get?_mapValues, valuesOf]
    cases values.get? key with
    | none => rfl
    | some v => rfl
  | entries items =>
    obtain ⟨l, hl, h⟩ := Result.bind_eq_ok.1 h
    rw [← Except.ok.inj h, Dict.get?_ofList_eq_getLast?_valuesAt, ← filterMap_splitEntry?_of_mapM hl]
    rfl

/-- A name is looked up and read alike exactly if it is not contested, and so is the strategy: the one that is acted
on is the one that a container gets. -/
theorem readings_agree_iff {s : Spec} (hs : s.environment = some e) (h : Environment.ofDeclared e = .ok declared) :
    (∀ key, s.environmentValue? key = declared.get? key ↔ ¬ e.Contested key) ∧
      ∀ name, ∃ env, Create.environment s name = .ok env ∧
        (s.configStrategy? = env.get? "CONFIG_STRATEGY" ↔ ¬ e.Contested "CONFIG_STRATEGY") := by
  have hagree : ∀ key, s.environmentValue? key = declared.get? key ↔ ¬ e.Contested key := by
    intro key
    rw [Spec.environmentValue?, hs, Option.bind_some, value?_eq_head?, get?_ofDeclared_eq_getLast? h, contested_iff,
      not_ne_iff]
  refine ⟨hagree, fun name => ⟨declared.insert Create.serviceNameKey (Create.serviceName name), ?_, ?_⟩⟩
  · rw [Create.environment, hs, Option.map_some, Option.getD_some, h]
    rfl
  · rw [Dict.get?_insert_of_ne _ _ (by decide)]
    exact hagree "CONFIG_STRATEGY"

/-- A list in which a name is given the same value twice. -/
theorem readings_agree_iff_repeated :
    let e : EnvironmentDeclaration := .entries ["MODE=a=b", "CONFIG_STRATEGY=COPY_ALWAYS", "MODE=c", "MODE=a=b"]
    let s : Spec := { environment := some e }
    ∃ declared, Environment.ofDeclared e = .ok declared ∧ s.environmentValue? "MODE" = declared.get? "MODE" := by
  intro e s
  have hdeclared : Environment.ofDeclared e = .ok (.ofList [("CONFIG_STRATEGY", "COPY_ALWAYS"), ("MODE", "a=b")]) := by
    decide +kernel
  have hvalues : e.valuesOf "MODE" = ["a=b", "c", "a=b"] := by decide +kernel
  have hends : (e.valuesOf "MODE").head? = (e.valuesOf "MODE").getLast? := by
    rw [hvalues]
    rfl
  refine ⟨_, hdeclared, ((readings_agree_iff (s := s) rfl hdeclared).1 "MODE").2 fun hcontested => ?_⟩
  exact contested_iff.1 hcontested hends

/-- A list with two strategies: a changed configuration is taken over by a restart, as the first one says, and the
container follows the second one, under which it would have to be made anew. -/
theorem strategies_differ :
    let e : EnvironmentDeclaration := .entries ["CONFIG_STRATEGY=COPY_ALWAYS", "CONFIG_STRATEGY=COPY_ONCE"]
    let s : Spec := { environment := some e }
    ∃ env, Create.environment s "web" = .ok env ∧ s.configStrategy? = some "COPY_ALWAYS" ∧
      env.get? "CONFIG_STRATEGY" = some "COPY_ONCE" ∧
      Decision.decide (some {}) true s.configStrategy? s.state = .restart ∧
      Decision.decide (some {}) true (env.get? "CONFIG_STRATEGY") s.state = .recreate := by
  intro e s
  have hstrategy : s.configStrategy? = some "COPY_ALWAYS" := by decide +kernel
  refine ⟨.ofList [("CONFIG_STRATEGY", "COPY_ONCE"), ("SERVICE_NAME", "web")], by decide +kernel, hstrategy, rfl,
    ?_, rfl⟩
  rw [hstrategy]
  rfl

end EnvironmentDeclaration

end Shipshape
