import Shipshape.Drift.Secret
import Shipshape.Environment
import Shipshape.Proofs.Dict
import Shipshape.Proofs.Result

/-!
# Environments without their secrets

A veiled entry has lost its value if its name is that of a secret. Dictionaries are built by looking at names
only, so reading an environment and veiling it is reading a veiled one: what a declared environment is read as,
apart from its secrets, depends on no secret (`map_veilAll_ofDeclared`).
-/

namespace Shipshape

open Secret

variable {α β : Type}

namespace Secret

/-- An entry without its value, if it is a secret. -/
def veil (e : String × α) : String × Option α := (e.1, if isSecretName e.1 then none else some e.2)

/-- Entries without the values of secrets. -/
def veilAll (d : Dict α) : Dict (Option α) := d.mapEntries fun k v => (veil (k, v)).2

theorem value_of_veil_eq {e e' : String × α} (h : veil e = veil e') (hopen : isSecretName e.1 = false) :
    e.2 = e'.2 := by
  obtain ⟨hname, hvalue⟩ := Prod.mk.inj h
  rw [← hname, hopen] at hvalue
  exact Option.some.inj hvalue

theorem get?_veilAll (d : Dict α) (k : String) :
    (veilAll d).get? k = (d.get? k).map fun v => if isSecretName k then none else some v :=
  Dict.get?_mapEntries (fun name v => if isSecretName name then none else some v) d k

theorem isSome_eq_of_veilAll {d d' : Dict α} (h : veilAll d = veilAll d') (k : String) :
    (d.get? k).isSome = (d'.get? k).isSome := by
  have hget : (veilAll d).get? k = (veilAll d').get? k := by rw [h]
  rw [get?_veilAll, get?_veilAll] at hget
  have hsome := congrArg Option.isSome hget
  simpa only [Option.isSome_map] using hsome

theorem get?_eq_of_veilAll {d d' : Dict α} (h : veilAll d = veilAll d') {k : String}
    (hopen : isSecretName k = false) : d.get? k = d'.get? k := by
  have hget : (veilAll d).get? k = (veilAll d').get? k := by rw [h]
  simp only [get?_veilAll, hopen, Bool.false_eq_true, if_false] at hget
  exact Option.map_injective (fun _ _ => Option.some.inj) hget

/-! ### Building dictionaries -/

theorem veilAll_mapValues (f : α → β) (d : Dict α) :
    veilAll (d.mapValues f) = (veilAll d).mapValues (Option.map f) := by
  ext k : 1
  rw [get?_veilAll, Dict.get?_mapValues, Dict.get?_mapValues, get?_veilAll, Option.map_map, Option.map_map]
  refine congrArg (Option.map · _) (funext fun v => ?_)
  by_cases hk : isSecretName k = true
  · simp [hk]
  · simp [hk]

theorem veilAll_erase (d : Dict α) (k : String) : veilAll (d.erase k) = (veilAll d).erase k := by
  ext j : 1
  rw [get?_veilAll, Dict.get?_erase, Dict.get?_erase, get?_veilAll]
  exact apply_ite (Option.map _) ..

theorem veilAll_insert (d : Dict α) (e : String × α) :
    veilAll (d.insert e.1 e.2) = (veilAll d).insert (veil e).1 (veil e).2 := by
  ext j : 1
  rw [get?_veilAll, Dict.get?_insert, Dict.get?_insert, get?_veilAll, veil]
  by_cases hj : j = e.1
  · rw [if_pos hj, if_pos hj, hj, Option.map_some]
  · rw [if_neg hj, if_neg hj]

theorem veilAll_insertAll (d : Dict α) (l : List (String × α)) :
    veilAll (d.insertAll l) = (veilAll d).insertAll (l.map veil) := by
  induction l generalizing d with
  | nil => rfl
  | cons e l ih =>
    have hstep : d.insertAll (e :: l) = (d.insert e.1 e.2).insertAll l := rfl
    rw [hstep, ih, veilAll_insert]
    rfl

theorem veilAll_ofList (l : List (String × α)) : veilAll (Dict.ofList l) = Dict.ofList (l.map veil) :=
  veilAll_insertAll ∅ l

end Secret

/-! ### Declared environments -/

/-- What a declared environment shows apart from its secrets: its fields, or how each of its entries is read. -/
def EnvironmentDeclaration.veiled :
    EnvironmentDeclaration → Dict (Option Json) ⊕ List (Except Error (String × Option String))
  | .object values => .inl (veilAll values)
  | .entries items => .inr (items.map fun item => (Environment.readEntry item).map veil)

theorem Environment.map_veilAll_ofDeclared {env env' : EnvironmentDeclaration} (h : env.veiled = env'.veiled) :
    (ofDeclared env).map veilAll = (ofDeclared env').map veilAll := by
  have hentries : ∀ items, (ofEntries items).map veilAll =
      ((items.map fun item => (readEntry item).map veil).mapM id).map Dict.ofList := by
    intro items
    rw [← Result.map_mapM]
    unfold ofEntries
    rcases items.mapM readEntry with e | l
    · rfl
    · exact congrArg Except.ok (veilAll_ofList l)
  rcases env with values | items
  · rcases env' with values' | items'
    · have hvalues : veilAll values = veilAll values' := Sum.inl.inj h
      show Except.ok (veilAll (values.mapValues _)) = Except.ok (veilAll (values'.mapValues _))
      rw [veilAll_mapValues, veilAll_mapValues, hvalues]
    · cases h
  · rcases env' with values' | items'
    · cases h
    · have hitems := Sum.inr.inj h
      show (ofEntries items).map veilAll = (ofEntries items').map veilAll
      rw [hentries, hentries, hitems]

end Shipshape
