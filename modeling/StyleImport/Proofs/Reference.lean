import StyleImport.Proofs.Text.Pieces
import StyleImport.Reference

/-!
# The grammar of references to packages

A reference to a package is a tilde, the name of the package and, after a slash, anything. The name
is one segment, or a scope with its mark and a name within it. A reference has its parts in one way
only, and the parts give the reference back, less a slash behind which nothing follows.

## Main definitions

- `Dependency.IsPackageName`: the names of packages, with their scopes.
- `Dependency.Names`: a reference names a package and a path inside it.

## Main statements

- `Dependency.parse?_eq_some_iff`: parsing finds the parts that a reference names.
- `Dependency.parse?_toReference`: parts are found again in their reference.
-/

namespace StyleImport

namespace Dependency

variable {r : Reference} {dep : Dependency}

/-! ## The grammar -/

/-- The names of packages: one segment that does not start with the scope mark, or a scope behind
this mark and a name within it. -/
inductive IsPackageName : Text → Option Text → Prop
  /-- A package without a scope. -/
  | plain {name : Text} (hname : name ≠ []) (hslash : .scalar '/' ∉ name)
    (hmark : name.head? ≠ some (.scalar '@')) : IsPackageName name none
  /-- A package in a scope. -/
  | inScope {scope name : Text} (hscope : scope ≠ []) (hscopeSlash : .scalar '/' ∉ scope)
    (hname : name ≠ []) (hslash : .scalar '/' ∉ name) :
    IsPackageName (.scalar '@' :: scope ++ .scalar '/' :: name) (some scope)

/-- A reference names a package, and perhaps a path inside it. -/
inductive Names : Reference → Dependency → Prop
  /-- Nothing follows the name of the package. -/
  | bare {package : Text} {scope : Option Text} (h : IsPackageName package scope) :
    Names (.scalar '~' :: package) ⟨package, [], scope⟩
  /-- Behind a slash follows a path, which may be empty. -/
  | inside {package : Text} {scope : Option Text} (h : IsPackageName package scope) (rest : Text) :
    Names (.scalar '~' :: (package ++ .scalar '/' :: rest)) ⟨package, rest, scope⟩

/-! ## The segments of a reference -/

theorem isDependency_cons (t : Text) : Reference.isDependency (.scalar '~' :: t) := rfl

/-- A package has a scope just if the text behind the tilde starts with the scope mark. -/
theorem isScoped_cons_iff {t : Text} :
    Reference.isScoped (.scalar '~' :: t) ↔ t.head? = some (.scalar '@') := by
  rw [Reference.isScoped, List.getElem?_cons_succ, ← List.head?_eq_getElem?, decide_eq_true_eq]

theorem parse?_of_plain {t name : Text} {pieces : List Text}
    (hsegments : Text.split (.scalar '/') t = name :: pieces) (hname : name ≠ [])
    (hmark : t.head? ≠ some (.scalar '@')) :
    parse? (.scalar '~' :: t) = some ⟨name, Text.join "/" pieces, none⟩ := by
  unfold parse?
  rw [if_pos (isDependency_cons t), if_neg (isScoped_cons_iff.not.mpr hmark), List.drop_one,
    List.tail_cons]
  simp only [hsegments, if_neg hname]

theorem parse?_of_scoped {t scope name : Text} {pieces : List Text}
    (hsegments : Text.split (.scalar '/') t = (.scalar '@' :: scope) :: name :: pieces)
    (hscope : scope ≠ []) (hname : name ≠ []) (hmark : t.head? = some (.scalar '@')) :
    parse? (.scalar '~' :: t) =
      some ⟨.scalar '@' :: scope ++ .scalar '/' :: name, Text.join "/" pieces, some scope⟩ := by
  unfold parse?
  rw [if_pos (isDependency_cons t), if_pos (isScoped_cons_iff.mpr hmark), List.drop_one,
    List.tail_cons]
  have hparts : ¬(name = [] ∨ scope = []) := not_or.mpr ⟨hname, hscope⟩
  simp only [hsegments, List.drop_one, List.tail_cons, if_neg hparts, List.append_assoc]
  rfl

/-- What a reference names is what parsing finds. -/
theorem parse?_of_names (h : Names r dep) : parse? r = some dep := by
  have hjoin (t : Text) : Text.join "/" (Text.split (.scalar '/') t) = t := Text.join_split _ t
  cases h with
  | bare hpackage =>
    cases hpackage with
    | plain hname hslash hmark => exact parse?_of_plain (Text.split_of_notMem hslash) hname hmark
    | @inScope scope name hscope hscopeSlash hname hslash =>
      have hfirst : .scalar '/' ∉ (.scalar '@' :: scope : Text) := by simp [hscopeSlash]
      have hsplit := Text.split_append_cons hfirst name
      rw [Text.split_of_notMem hslash] at hsplit
      exact parse?_of_scoped hsplit hscope hname rfl
  | @inside package _ hpackage rest =>
    cases hpackage with
    | plain hname hslash hmark =>
      obtain ⟨c, name, rfl⟩ := List.exists_cons_of_ne_nil hname
      rw [parse?_of_plain (Text.split_append_cons hslash rest) hname hmark, hjoin]
    | @inScope scope name hscope hscopeSlash hname hslash =>
      have hfirst : .scalar '/' ∉ (.scalar '@' :: scope : Text) := by simp [hscopeSlash]
      have hsplit := Text.split_append_cons hfirst (name ++ .scalar '/' :: rest)
      rw [Text.split_append_cons hslash, ← List.cons_append, ← List.append_assoc] at hsplit
      rw [parse?_of_scoped hsplit hscope hname rfl, hjoin]

/-- A text that starts with a package name names this package. -/
theorem names_of_join {t package : Text} {scope : Option Text} {pieces : List Text}
    (h : IsPackageName package scope)
    (ht : pieces = [] ∧ t = package ∨ t = package ++ .scalar '/' :: Text.join "/" pieces) :
    Names (.scalar '~' :: t) ⟨package, Text.join "/" pieces, scope⟩ := by
  rcases ht with ⟨rfl, rfl⟩ | rfl
  · exact .bare h
  · exact .inside h _

theorem names_of_plain {t name : Text} {pieces : List Text}
    (hsegments : Text.split (.scalar '/') t = name :: pieces) (hname : name ≠ [])
    (hmark : t.head? ≠ some (.scalar '@')) :
    Names (.scalar '~' :: t) ⟨name, Text.join "/" pieces, none⟩ := by
  have hslash : .scalar '/' ∉ name := Text.notMem_of_mem_split (hsegments ▸ List.mem_cons_self)
  have ht := Text.join_cons_eq (.scalar '/') name pieces
  rw [← hsegments, Text.join_split] at ht
  refine names_of_join (.plain hname hslash fun hhead => hmark ?_) ht
  obtain ⟨name, rfl⟩ := List.head?_eq_some_iff.mp hhead
  rcases ht with ⟨-, rfl⟩ | rfl <;> rfl

theorem names_of_scoped {t first name : Text} {pieces : List Text}
    (hsegments : Text.split (.scalar '/') t = first :: name :: pieces) (hscope : first.drop 1 ≠ [])
    (hname : name ≠ []) (hmark : t.head? = some (.scalar '@')) :
    Names (.scalar '~' :: t)
      ⟨first ++ .scalar '/' :: name, Text.join "/" pieces, some (first.drop 1)⟩ := by
  have hfirst : .scalar '/' ∉ first := Text.notMem_of_mem_split (hsegments ▸ List.mem_cons_self)
  have hslash : .scalar '/' ∉ name :=
    Text.notMem_of_mem_split (hsegments ▸ List.mem_cons_of_mem first List.mem_cons_self)
  have ht : t = first ++ .scalar '/' :: Text.join [.scalar '/'] (name :: pieces) := by
    rw [← Text.join_split (.scalar '/') t, hsegments, Text.join_cons_cons, List.append_assoc,
      List.singleton_append]
  -- The first segment is not empty, so the mark is its first character.
  cases first with
  | nil => exact absurd rfl hscope
  | cons c scope =>
    obtain rfl : c = .scalar '@' := by
      rw [ht] at hmark
      exact Option.some.inj hmark
    refine names_of_join (.inScope hscope (List.not_mem_of_not_mem_cons hfirst) hname hslash) ?_
    rcases Text.join_cons_eq (.scalar '/') name pieces with ⟨hpieces, hjoin⟩ | hjoin
    · exact .inl ⟨hpieces, by rw [ht, hjoin]⟩
    · exact .inr (by rw [ht, hjoin, List.append_assoc]; rfl)

/-- What parsing finds is what a reference names. -/
theorem names_of_parse? (h : parse? r = some dep) : Names r dep := by
  unfold parse? at h
  split at h
  · next hdependency =>
    obtain ⟨t, rfl⟩ := List.head?_eq_some_iff.mp (of_decide_eq_true hdependency)
    rw [List.drop_one, List.tail_cons] at h
    dsimp only at h
    split at h
    · next hscoped =>
      split at h
      · next first name pieces hsegments =>
        split at h
        · cases h
        · next hempty =>
          obtain ⟨hname, hscope⟩ := not_or.mp hempty
          cases h
          rw [List.append_assoc]
          exact names_of_scoped hsegments hscope hname (isScoped_cons_iff.mp hscoped)
      · cases h
    · next hscoped =>
      split at h
      · cases h
      · next name pieces hsegments =>
        split at h
        · cases h
        · next hname =>
          cases h
          exact names_of_plain hsegments hname (isScoped_cons_iff.not.mp hscoped)
  · cases h

/-- Parsing finds the parts that a reference names, and no others. -/
theorem parse?_eq_some_iff : parse? r = some dep ↔ Names r dep := ⟨names_of_parse?, parse?_of_names⟩

/-! ## Parts and references -/

/-- The parts of a reference give it back, less a slash behind which nothing follows. -/
theorem Names.eq_toReference (h : Names r dep) :
    r = dep.toReference ∨ dep.subpath = [] ∧ r = dep.toReference ++ "/" := by
  cases h with
  | bare h => exact .inl (List.append_nil _).symm
  | @inside package scope h rest =>
    cases rest with
    | nil =>
      refine .inr ⟨rfl, ?_⟩
      rw [toReference, if_pos rfl, List.append_nil]
      rfl
    | cons c rest => exact .inl rfl

/-- Parts with the name of a package are named by the reference that they give. -/
theorem names_toReference (h : IsPackageName dep.package dep.scope) :
    Names dep.toReference dep := by
  obtain ⟨package, subpath, scope⟩ := dep
  cases subpath with
  | nil =>
    rw [toReference, if_pos rfl, List.append_nil]
    exact .bare h
  | cons c rest => exact .inside h (c :: rest)

/-- The references that name a package are those that can be parsed. Parsing finds the only parts
that a reference names, and these give it back, less a slash behind which nothing follows; parts
with the name of a package are found again in the reference that they give. -/
theorem parse?_inverts_toReference :
    (∀ r, (parse? r).isSome ↔ ∃ dep, Names r dep) ∧
      (∀ r dep, parse? r = some dep → Names r dep ∧ (∀ other, Names r other → other = dep) ∧
        (r = dep.toReference ∨ dep.subpath = [] ∧ r = dep.toReference ++ "/")) ∧
      ∀ dep : Dependency, IsPackageName dep.package dep.scope →
        parse? dep.toReference = some dep := by
  refine ⟨fun r => ?_, fun r dep h => ?_, fun dep h => parse?_of_names (names_toReference h)⟩
  · rw [Option.isSome_iff_exists]
    exact exists_congr fun dep => parse?_eq_some_iff
  · have hnames := parse?_eq_some_iff.mp h
    refine ⟨hnames, fun other hother => ?_, hnames.eq_toReference⟩
    exact Option.some.inj (by rw [← parse?_of_names hother, h])

example : parse? "~@s/n//x" = some ⟨"@s/n", "/x", some "s"⟩ := by decide

end Dependency

end StyleImport
