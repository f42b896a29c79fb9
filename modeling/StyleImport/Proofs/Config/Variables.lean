import StyleImport.Proofs.Config.Entries
import StyleImport.Proofs.Json.Fields
import StyleImport.Proofs.Text.LetterCase
import StyleImport.Proofs.Text.Pieces

/-!
# What the environment sets

A variable counts by its name in small letters, and the last one with a name counts. A part of the
resolver's section has a variable of its own. The section as a whole has one too, which counts for
the parts that have none, as long as it spells their names in small letters: of two spellings of one
name the later one would count, even over a variable for the part.

## Main definitions

- `Environment.value?`: the value of a variable, whatever the case of its name.
- `Settings.partVariable?`, `Settings.sectionVariable?`: what the variables for a part and for the
  whole section hold.
- `Settings.HasPlainSection`: the environments whose variable for the whole section, if there is
  one, leaves the parts to their own variables.

## Main statements

- `Settings.get?_lowerVariables`: the variables in small letters.
- `Settings.isOrMap_partsFrom`: what the variables for the parts say about a part.
- `Settings.isOrMap_resolverFrom`: what all variables say about it.
-/

namespace StyleImport

/-! ## The names of variables -/

namespace Environment

variable {env done : Environment} {name value : Text}

/-- The value of the last variable that has a name in small letters. -/
def value? (env : Environment) (name : Text) : Option Text :=
  ((env.filter (·.1.toLower = name)).getLast?).map (·.2)

/-- The names of the variables. -/
def names (env : Environment) : List Text := env.map (·.1)

theorem get?_cons (e : Text × Text) :
    get? (e :: env) name = if e.1 = name then some e.2 else get? env name := by
  by_cases h : e.1 = name
  · simp [get?, h]
  · simp [get?, h]

theorem get?_of_notMem (h : name ∉ names env) : get? env name = none := by
  rw [get?, Option.map_eq_none_iff, List.find?_eq_none]
  intro e he hname
  exact h (List.mem_map.mpr ⟨e, he, of_decide_eq_true hname⟩)

theorem get?_concat (e : Text × Text) (h : e.1 ∉ names env) :
    get? (env ++ [e]) name = if e.1 = name then some e.2 else get? env name := by
  induction env with
  | nil => rw [List.nil_append, get?_cons]
  | cons f env ih =>
    rw [names, List.map_cons, List.mem_cons, not_or] at h
    rw [List.cons_append, get?_cons, get?_cons, ih h.2]
    by_cases hf : f.1 = name
    · have hne : e.1 ≠ name := hf ▸ h.1
      simp [hf, hne]
    · simp [hf]

/-- The variables after one of them was given another value. -/
def replace (name value : Text) (env : Environment) : Environment :=
  env.map fun e => if e.1 = name then (name, value) else e

theorem names_replace : names (replace name value env) = names env := by
  unfold names replace
  rw [List.map_map]
  refine List.map_congr_left fun e _ => ?_
  by_cases h : e.1 = name <;> simp [h]

theorem get?_replace_self (h : name ∈ names env) :
    get? (replace name value env) name = some value := by
  induction env with
  | nil => cases h
  | cons e env ih =>
    rw [replace, List.map_cons, get?_cons]
    by_cases he : e.1 = name
    · simp [he]
    · rw [names, List.map_cons, List.mem_cons] at h
      rw [if_neg he, if_neg he]
      exact ih (h.resolve_left (Ne.symm he))

theorem get?_replace_of_ne {other : Text} (h : name ≠ other) :
    get? (replace name value env) other = get? env other := by
  induction env with
  | nil => rfl
  | cons e env ih =>
    rw [replace, List.map_cons, get?_cons, get?_cons, ← replace, ih]
    by_cases he : e.1 = name <;> simp [he, h]

/-- Gives a variable a value. -/
def put (name value : Text) (env : Environment) : Environment :=
  if env.any (·.1 = name) then replace name value env else env ++ [(name, value)]

theorem names_put :
    names (put name value env) = if name ∈ names env then names env else names env ++ [name] := by
  unfold put
  by_cases h : name ∈ names env
  · have hany : env.any (·.1 = name) = true := by simpa [names] using h
    rw [if_pos hany, if_pos h, names_replace]
  · have hany : ¬env.any (·.1 = name) = true := by simpa [names] using h
    rw [if_neg hany, if_neg h, names, List.map_append]
    rfl

theorem get?_put {other : Text} :
    get? (put name value env) other = if name = other then some value else get? env other := by
  unfold put
  by_cases h : name ∈ names env
  · have hany : env.any (·.1 = name) = true := by simpa [names] using h
    rw [if_pos hany]
    split
    · next hother => exact hother ▸ get?_replace_self h
    · next hother => exact get?_replace_of_ne hother
  · have hany : ¬env.any (·.1 = name) = true := by simpa [names] using h
    rw [if_neg hany, get?_concat _ h]

end Environment

namespace Settings

open Environment

variable {env done : Environment} {name : Text}

/-- The variables with their names in small letters are put one after the other. -/
theorem lowerVariables_eq_foldl (env : Environment) :
    lowerVariables env = env.foldl (fun done e => put e.1.toLower e.2 done) [] := rfl

theorem get?_foldl_put :
    get? (env.foldl (fun done e => put e.1.toLower e.2 done) done) name =
      (value? env name).or (get? done name) := by
  induction env generalizing done with
  | nil => rfl
  | cons e env ih =>
    rw [List.foldl_cons, ih, get?_put]
    unfold value?
    by_cases he : e.1.toLower = name
    · rw [List.filter_cons_of_pos (by simpa using he)]
      cases hrest : env.filter (·.1.toLower = name) with
      | nil => simp [he]
      | cons f fs => rw [List.getLast?_cons_cons, List.getLast?_cons]; rfl
    · rw [List.filter_cons_of_neg (by simpa using he), if_neg he]

theorem get?_lowerVariables : get? (lowerVariables env) name = value? env name := by
  rw [lowerVariables_eq_foldl, get?_foldl_put]
  exact Option.or_none

/-- Variables with distinct names in small letters. -/
structure IsLowered (env : Environment) : Prop where
  /-- The names are distinct. -/
  nodup : (names env).Nodup
  /-- The names are in small letters. -/
  small : ∀ n ∈ names env, ∃ m : Text, n = m.toLower

theorem IsLowered.put (h : IsLowered env) (n value : Text) :
    IsLowered (env.put n.toLower value) := by
  constructor
  · rw [names_put]
    split
    · exact h.nodup
    · next hnew => simpa using h.nodup.concat hnew
  · intro other hother
    rw [names_put] at hother
    split at hother
    · exact h.small other hother
    · rcases List.mem_append.mp hother with hother | hother
      · exact h.small other hother
      · exact ⟨n, List.mem_singleton.mp hother⟩

theorem isLowered_lowerVariables (env : Environment) : IsLowered (lowerVariables env) := by
  have hfold : ∀ done, IsLowered done →
      IsLowered (env.foldl (fun done e => put e.1.toLower e.2 done) done) := by
    induction env with
    | nil => exact fun done h => h
    | cons e env ih => exact fun done h => ih _ (h.put e.1 e.2)
  exact hfold [] ⟨List.nodup_nil, nofun⟩

/-! ## The variables for parts of the section -/

theorem splitParts_ne_nil (t : Text) : splitParts t ≠ [] := by
  fun_cases splitParts t <;> simp_all

/-- The pieces are found again between the marks. -/
theorem join_splitParts (t : Text) : Text.join partMark (splitParts t) = t := by
  fun_induction splitParts t with
  | case1 => rfl
  | case2 c => rfl
  | case3 t ih =>
    obtain ⟨piece, pieces, hpieces⟩ := List.exists_cons_of_ne_nil (splitParts_ne_nil t)
    rw [hpieces] at ih ⊢
    rw [Text.join_cons_cons, ih]
    rfl
  | case4 c t hnil hmark hsplit ih => exact absurd hsplit (splitParts_ne_nil t)
  | case5 c t hnil hmark piece pieces hsplit ih =>
    rw [hsplit] at ih
    cases pieces with
    | nil => simpa using ih
    | cons q rest => rw [Text.join_cons_cons] at ih ⊢; simp [← ih]

/-- A piece holds only code points of the text. -/
theorem mem_of_mem_splitParts {t piece : Text} {c : CodePoint} (h : piece ∈ splitParts t)
    (hc : c ∈ piece) : c ∈ t := by
  fun_induction splitParts t generalizing piece with
  | case1 => simp_all
  | case2 d => simp_all
  | case3 t ih =>
    rcases List.mem_cons.mp h with rfl | h
    · cases hc
    · simp [ih h hc]
  | case4 d t hnil hmark hsplit ih => exact absurd hsplit (splitParts_ne_nil t)
  | case5 d t hnil hmark piece pieces hsplit ih =>
    rw [hsplit] at ih
    rcases List.mem_cons.mp h with rfl | hrest
    · rcases List.mem_cons.mp hc with rfl | hc
      · exact List.mem_cons_self
      · exact List.mem_cons_of_mem d (ih List.mem_cons_self hc)
    · exact List.mem_cons_of_mem d (ih (List.mem_cons_of_mem _ hrest) hc)

/-- A value is the one that is expected, or it is a mapping. -/
def IsOrMap (expected o : Option Value) : Prop := o = expected ∨ ∃ es, o = some (.map es)

theorem IsOrMap.trans {o₁ o₂ o₃ : Option Value} (h : IsOrMap o₁ o₂) (h' : IsOrMap o₂ o₃) :
    IsOrMap o₁ o₃ := by
  rcases h' with rfl | hmap
  · exact h
  · exact .inr hmap

/-- A variable for a part of a part makes a mapping of the part, or changes nothing. -/
theorem isOrMap_putPart (v : Value) {path : List Text} (es : Entries) (h : path ≠ [name]) :
    IsOrMap (Value.get? (.text name) es) (Value.get? (.text name) (putPart v path es)) := by
  unfold putPart
  split
  · exact .inl rfl
  · next other =>
    have hne : Value.text other ≠ .text name := by simpa using h
    exact .inl (Value.get?_put_of_ne hne)
  · next first rest _ =>
    by_cases hname : first = name
    · subst hname
      split
      · exact .inr ⟨_, Value.get?_put_self⟩
      · exact .inr ⟨_, Value.get?_put_self⟩
      · exact .inl rfl
    · have hne : Value.text first ≠ .text name := by simpa using hname
      split
      · exact .inl (Value.get?_put_of_ne hne)
      · exact .inl (Value.get?_put_of_ne hne)
      · exact .inl rfl

/-- The name of the variable for a part of the section. -/
def partVariableName (name : Text) : Text := variableStart ++ resolverName ++ partMark ++ name

theorem partVariableName_injective {other : Text}
    (h : partVariableName name = partVariableName other) : name = other :=
  List.append_cancel_left h

/-- What one variable does to the entries of the section. -/
theorem partsFrom_cons {e : Text × Text} {es es' : Entries}
    (h : partsFrom (e :: env) es = .ok es') :
    (∃ path v, e.1 = partVariableName path ∧ partValue (splitParts path) e.2 = .ok v ∧
        partsFrom env (putPart v (splitParts path) es) = .ok es') ∨
      (∀ path, e.1 ≠ partVariableName path) ∧ partsFrom env es = .ok es' := by
  obtain ⟨n, t⟩ := e
  unfold partsFrom at h
  dsimp only at h
  split at h
  · next hprefix =>
    obtain ⟨path, rfl⟩ := List.isPrefixOf_iff_prefix.mp hprefix
    rw [List.drop_left] at h
    obtain ⟨v, hv, hrest⟩ := bind_eq_ok_iff.mp h
    exact .inl ⟨path, v, rfl, hv, hrest⟩
  · next hprefix =>
    refine .inr ⟨?_, h⟩
    rintro path rfl
    exact hprefix (List.isPrefixOf_iff_prefix.mpr (List.prefix_append _ path))

/-- What the variable for a part holds, if it can be read. -/
def partVariable? (env : Environment) (name : Text) : Option Value :=
  (value? env (partVariableName name)).bind fun t => (partValue [name] t).toOption

/-- The variables for the parts decide the parts, up to parts of parts. The induction is on the
variables: as names are distinct, only one of them is the variable for the part. -/
theorem isOrMap_partsFrom {es es' : Entries} (hnodup : (names env).Nodup)
    (hname : splitParts name = [name]) (h : partsFrom env es = .ok es') :
    IsOrMap (((get? env (partVariableName name)).bind fun t => (partValue [name] t).toOption).or
      (Value.get? (.text name) es)) (Value.get? (.text name) es') := by
  induction env generalizing es with
  | nil =>
    cases h
    exact .inl rfl
  | cons e env ih =>
    rw [names, List.map_cons, List.nodup_cons] at hnodup
    rw [get?_cons]
    rcases partsFrom_cons h with ⟨path, v, hpath, hv, hrest⟩ | ⟨hpath, hrest⟩
    · by_cases hself : path = name
      · subst hself
        rw [hname] at hv hrest
        -- No later variable has this name again, so nothing later gives the part another value but
        -- a mapping.
        have hlater : get? env (partVariableName path) = none := get?_of_notMem (hpath ▸ hnodup.1)
        have hput : Value.get? (.text path) (putPart v [path] es) = some v := Value.get?_put_self
        have := ih hnodup.2 hrest
        rw [hlater, hput] at this
        simpa [hpath, hv, Except.toOption] using this
      -- A variable for another path can only touch the part by putting a part of it.
      · have hne : e.1 ≠ partVariableName name := fun h =>
          hself (partVariableName_injective (hpath ▸ h))
        have hpieces : splitParts path ≠ [name] := by
          intro hpieces
          apply hself
          rw [← join_splitParts path, hpieces, Text.join_singleton]
        have hput := isOrMap_putPart v es hpieces
        have hrec := ih hnodup.2 hrest
        rw [if_neg hne]
        cases hvar : (get? env (partVariableName name)).bind fun t =>
            (partValue [name] t).toOption with
        | none =>
          rw [hvar] at hrec
          exact hput.trans hrec
        | some w =>
          rw [hvar] at hrec
          exact hrec
    · rw [if_neg (hpath name)]
      exact ih hnodup.2 hrest

/-! ## The names of the parts -/

/-- The names that the parts of the section have. -/
def IsPartName (name : Text) : Prop := name = tempDirName ∨ name = packageDirsName

/-- Entries that spell the names of parts in small letters. -/
def SpellsPlainly (es : Entries) : Prop :=
  ∀ name ∈ Value.names es, IsPartName name.toLower → name.toLower = name

theorem toNat_of_isPartName (h : IsPartName name) : ∀ c ∈ name, c.toNat < 0x80 := by
  rcases h with rfl | rfl <;> decide

/-- The names that a variable for a part puts are those of the outermost part. -/
theorem mem_names_putPart {v : Value} {path : List Text} {es : Entries}
    (h : name ∈ Value.names (putPart v path es)) : name ∈ Value.names es ∨ name ∈ path := by
  unfold putPart at h
  split at h
  · exact .inl h
  · exact (Value.mem_names_put h).imp_right fun h => by simp [Value.text.inj h]
  · split at h
    · exact (Value.mem_names_put h).imp_right fun h => by simp [Value.text.inj h]
    · exact (Value.mem_names_put h).imp_right fun h => by simp [Value.text.inj h]
    · exact .inl h

theorem nodup_names_putPart {v : Value} {path : List Text} {es : Entries}
    (h : (Value.names es).Nodup) : (Value.names (putPart v path es)).Nodup := by
  unfold putPart
  split
  · exact h
  · exact Value.nodup_names_put h
  · split
    · exact Value.nodup_names_put h
    · exact Value.nodup_names_put h
    · exact h

/-- The entries from variables in small letters have distinct names, spelled in small letters. -/
theorem names_partsFrom {es es' : Entries} (henv : ∀ n ∈ names env, ∃ m : Text, n = m.toLower)
    (hes : (Value.names es).Nodup ∧ ∀ n ∈ Value.names es, ∀ c ∈ n, c.hasAsciiSmall = false)
    (h : partsFrom env es = .ok es') :
    (Value.names es').Nodup ∧ ∀ n ∈ Value.names es', ∀ c ∈ n, c.hasAsciiSmall = false := by
  induction env generalizing es with
  | nil => exact Except.ok.inj h ▸ hes
  | cons e env ih =>
    have htail := fun n hn => henv n (List.mem_cons_of_mem e.1 hn)
    rcases partsFrom_cons h with ⟨path, v, hpath, -, hrest⟩ | ⟨-, hrest⟩
    · refine ih htail ⟨nodup_names_putPart hes.1, ?_⟩ hrest
      intro n hn c hc
      rcases mem_names_putPart hn with hn | hn
      · exact hes.2 n hn c hc
      -- A new name is a piece of the name of the variable, which is in small letters.
      · obtain ⟨m, hm⟩ := henv e.1 List.mem_cons_self
        apply Text.hasAsciiSmall_of_mem_toLower (t := m)
        rw [← hm, hpath]
        exact List.mem_append_right _ (mem_of_mem_splitParts hn hc)
    · exact ih htail hes hrest

theorem spellsPlainly_of_small {es : Entries}
    (h : ∀ n ∈ Value.names es, ∀ c ∈ n, c.hasAsciiSmall = false) : SpellsPlainly es := by
  intro n hn hpart
  exact (Text.eq_of_toLower_eq (h n hn) (toNat_of_isPartName hpart) rfl).symm

/-- A key with the name of a part in small letters. -/
def smallKey : Value → Value
  | .text name =>
    .text (if name.toLower = tempDirName ∨ name.toLower = packageDirsName then name.toLower
      else name)
  | k => k

theorem lowerNames_eq_putAll (es : Entries) :
    lowerNames es = Value.putAll (es.map fun e => (smallKey e.1, e.2)) [] := by
  unfold lowerNames Value.putAll
  rw [List.foldl_map]
  congr 1
  funext done e
  obtain ⟨k, v⟩ := e
  cases k <;> rfl

theorem nodup_names_lowerNames (es : Entries) : (Value.names (lowerNames es)).Nodup := by
  rw [lowerNames_eq_putAll]
  exact Value.nodup_names_putAll List.nodup_nil

/-- Where the names of parts are spelled in small letters, putting them in small letters changes
nothing. -/
theorem get?_lowerNames {es : Entries} (hes : (Value.names es).Nodup) (hplain : SpellsPlainly es) :
    Value.get? (.text name) (lowerNames es) = Value.get? (.text name) es := by
  have hsame : es.map (fun e => (smallKey e.1, e.2)) = es := by
    refine (List.map_congr_left (g := id) fun e he => ?_).trans (List.map_id es)
    obtain ⟨k, v⟩ := e
    cases k with
    | text other =>
      have hmem : other ∈ Value.names es := List.mem_filterMap.mpr ⟨_, he, rfl⟩
      simp only [smallKey, id_eq]
      split
      · next hpart => rw [hplain other hmem hpart]
      · rfl
    | _ => rfl
  rw [lowerNames_eq_putAll, hsame, Value.get?_putAll hes]
  exact Option.or_none

/-! ## The section -/

/-- The name of the variable for the whole section. -/
def sectionVariableName : Text := variableStart ++ resolverName

/-- What the variable for the whole section holds, if it can be read. -/
def sectionVariable? (env : Environment) : Option Value :=
  (value? env sectionVariableName).bind fun t => (readVariable t).toOption

theorem nodup_of_readVariable {t : Text} {es : Entries} (h : readVariable t = .ok (.map es)) :
    (Value.names es).Nodup := by
  unfold readVariable at h
  split at h
  · cases h
  · split at h
    · next v hread =>
      exact Json.nodup_names_of_read hread (Except.ok.inj h)
    · cases h

/-- What variables with names in small letters say about the section. -/
theorem resolverFrom_eq_ok {o : Option Value} (h : resolverFrom env = .ok o) :
    (get? env sectionVariableName = none ∧ ∃ parts, partsFrom env [] = .ok parts ∧
        (parts = [] ∧ o = none ∨ o = some (.map (lowerNames parts)))) ∨
      ∃ t v, get? env sectionVariableName = some t ∧ readVariable t = .ok v ∧
        ((∃ es parts, v = .map es ∧ partsFrom env [] = .ok parts ∧
            o = some (.map (lowerNames (overlay es parts)))) ∨
          v.entries? = none ∧ (v = .null ∧ o = none ∨ o = some v)) := by
  unfold resolverFrom at h
  split at h
  · next hget =>
    obtain ⟨parts, hparts, hend⟩ := bind_eq_ok_iff.mp h
    refine .inl ⟨hget, parts, hparts, ?_⟩
    split at hend
    · cases hend
      exact .inl ⟨rfl, rfl⟩
    · cases hend
      exact .inr rfl
  · next t hget =>
    obtain ⟨v, hv, hend⟩ := bind_eq_ok_iff.mp h
    refine .inr ⟨t, v, hget, hv, ?_⟩
    split at hend
    · next es =>
      obtain ⟨parts, hparts, hpure⟩ := bind_eq_ok_iff.mp hend
      cases hpure
      exact .inl ⟨es, parts, rfl, hparts, rfl⟩
    · cases hend
      exact .inr ⟨rfl, .inl ⟨rfl, rfl⟩⟩
    · next hmap hnull =>
      cases hend
      refine .inr ⟨?_, .inr rfl⟩
      cases v <;> first | rfl | exact absurd rfl (hmap _)

/-- The parts that the environment sets have distinct names. -/
theorem nodup_of_resolverFrom {es : Entries} (h : resolverFrom env = .ok (some (.map es))) :
    (Value.names es).Nodup := by
  rcases resolverFrom_eq_ok h with ⟨-, parts, -, ⟨-, hnone⟩ | hsome⟩ |
    ⟨t, v, -, -, ⟨base, parts, -, -, hsome⟩ | ⟨hv, ⟨-, hnone⟩ | hsome⟩⟩
  · cases hnone
  · cases hsome
    exact nodup_names_lowerNames parts
  · cases hsome
    exact nodup_names_lowerNames _
  · cases hnone
  · cases hsome
    cases hv

/-- Tells that the variable for the whole section, if there is one, neither takes the section away
nor spells the names of parts in other than small letters. -/
def HasPlainSection (env : Environment) : Prop :=
  ∀ v, sectionVariable? env = some v → v ≠ .null ∧ ∀ es, v = .map es → SpellsPlainly es

/-- A value over another one is the value itself, unless it is a mapping. -/
theorem isOrMap_overlayValue (o : Option Value) (v : Value) :
    IsOrMap (some v) (some (overlayValue o v)) := by
  cases h : v.entries? with
  | none => exact .inl (by rw [overlayValue_of_entries?_eq_none o h])
  | some es =>
    obtain rfl := Value.eq_map_of_entries?_eq_some h
    exact .inr ⟨_, by rw [overlayValue_map]⟩

theorem isOrMap_overlay {base new : Entries} {expected : Option Value}
    (hnodup : (Value.names new).Nodup) (h : IsOrMap expected (Value.get? (.text name) new)) :
    IsOrMap (expected.or (Value.get? (.text name) base))
      (Value.get? (.text name) (overlay base new)) := by
  rw [get?_overlay hnodup]
  rcases h with h | ⟨es, h⟩
  · rw [h]
    cases expected with
    | none => exact .inl rfl
    | some v => exact isOrMap_overlayValue _ v
  · rw [h]
    exact .inr ⟨_, congrArg some (overlayValue_map _ es)⟩

/-- A part of the section is what its variable says, or else the variable for the whole section, up
to variables for parts of it. -/
theorem isOrMap_resolverFrom {o : Option Value} (h : resolverFrom (lowerVariables env) = .ok o)
    (hfits : ∀ v, o = some v → ∃ es, v = .map es) (hplain : HasPlainSection env)
    (hname : IsPartName name) :
    IsOrMap ((partVariable? env name).or (part? (sectionVariable? env) name)) (part? o name) := by
  have hlow := isLowered_lowerVariables env
  have hpieces : splitParts name = [name] := by rcases hname with rfl | rfl <;> rfl
  -- What the variables for the parts alone make of the part.
  have halone {parts : Entries} (hparts : partsFrom (lowerVariables env) [] = .ok parts) :
      IsOrMap (partVariable? env name) (Value.get? (.text name) parts) ∧
        (Value.names parts).Nodup ∧ SpellsPlainly parts := by
    have hpart := isOrMap_partsFrom hlow.nodup hpieces hparts
    rw [get?_lowerVariables, Value.get?_nil, Option.or_none] at hpart
    have hstart : (Value.names ([] : Entries)).Nodup ∧
        ∀ n ∈ Value.names ([] : Entries), ∀ c ∈ n, c.hasAsciiSmall = false :=
      ⟨List.nodup_nil, nofun⟩
    obtain ⟨hnodup, hsmall⟩ := names_partsFrom hlow.small hstart hparts
    exact ⟨hpart, hnodup, spellsPlainly_of_small hsmall⟩
  rcases resolverFrom_eq_ok h with ⟨hnone, parts, hparts, ho⟩ | ⟨t, v, hsome, hv, hsection⟩
  · obtain ⟨hpart, hnodup, hspells⟩ := halone hparts
    rw [get?_lowerVariables] at hnone
    have hsection : sectionVariable? env = none := by rw [sectionVariable?, hnone]; rfl
    have hpart? : part? o name = Value.get? (.text name) parts := by
      rcases ho with ⟨rfl, rfl⟩ | rfl
      · rfl
      · exact get?_lowerNames hnodup hspells
    rw [hsection, hpart?, part?, Option.bind_none, Option.bind_none, Option.or_none]
    exact hpart
  -- With a variable for the whole section, the parts that have variables are put over its parts.
  -- Both spell the names plainly, so nothing is lost when the names are put in small letters.
  · rw [get?_lowerVariables] at hsome
    have hvalue : sectionVariable? env = some v := by
      rw [sectionVariable?, hsome, Option.bind_some, hv]
      rfl
    rcases hsection with ⟨es, parts, rfl, hparts, rfl⟩ | ⟨hv, ⟨rfl, -⟩ | rfl⟩
    · obtain ⟨hpart, hnodup, hspells⟩ := halone hparts
      have hes : (Value.names es).Nodup := nodup_of_readVariable hv
      have hboth : SpellsPlainly (overlay es parts) := by
        intro n hn
        rcases mem_names_overlay hn with hn | hn
        · exact (hplain _ hvalue).2 es rfl n hn
        · exact hspells n hn
      rw [hvalue, part?_map, part?_map, get?_lowerNames (nodup_names_overlay hes) hboth]
      exact isOrMap_overlay hnodup hpart
    · exact absurd rfl (hplain _ hvalue).1
    · obtain ⟨es, rfl⟩ := hfits v rfl
      cases hv

end Settings

end StyleImport
