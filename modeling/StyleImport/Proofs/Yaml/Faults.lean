import StyleImport.Proofs.Effect
import StyleImport.Proofs.Yaml.Keeps
import StyleImport.Yaml.Content

/-!
# Faults behind the grammar

Taking over entries and working out values change the nodes of a document, but no text of a scalar
changes, and no kind except that a value key becomes a text. So a fault that is found on the way is
a breach of a rule for kinds, anchors or keys, or else it comes from a scalar of the document whose
text gives no value of the kind of a node.

## Main definitions

- `Yaml.Graph.ComesFrom`: what the nodes of a document may become.
- `Yaml.Graph.HasStrayScalar`: documents with a text that gives no value of a kind.
- `Yaml.Graph.MayFail`: the faults that a document may have behind the grammar.

## Main statements

- `Yaml.Graph.comesFrom_flatten`: taking over entries.
- `Yaml.Build.keeps_value`: working out a value.
- `Yaml.fault_of_read`: the faults of a document.
-/

namespace StyleImport

namespace Yaml

variable {g g₀ : Graph} {fault : Fault} {fuel : Nat}

/-! ## What nodes become -/

namespace Graph

/-- The nodes of a graph come from those of another one: their scalars are the same, and their kinds
are the same or became texts. -/
structure ComesFrom (g g₀ : Graph) : Prop where
  /-- The kinds. -/
  tag : ∀ id, g.tag id = g₀.tag id ∨ g.tag id = .str
  /-- The scalars. -/
  text : ∀ id t, (g.node id).content = .scalar t → (g₀.node id).content = .scalar t

theorem ComesFrom.refl (g : Graph) : g.ComesFrom g := ⟨fun _ => .inl rfl, fun _ _ h => h⟩

theorem node_put (g : Graph) (i id : NodeId) (n : Node) :
    (g.put i n).node id = if i = id ∧ i < g.size then n else g.node id := by
  unfold put node
  rw [Array.getElem?_setIfInBounds]
  by_cases hid : i = id
  · subst hid
    by_cases hi : i < g.size
    · simp [hi]
    · simp [hi]
  · simp [hid]

/-- A node may be replaced by one of its kind, or by a text, that holds no other scalar. -/
theorem ComesFrom.put (h : g.ComesFrom g₀) {i : NodeId} {n : Node}
    (htag : n.tag = g.tag i ∨ n.tag = .str)
    (htext : ∀ t, n.content = .scalar t → (g.node i).content = .scalar t) :
    (g.put i n).ComesFrom g₀ := by
  refine ⟨fun id => ?_, fun id t ht => ?_⟩
  · unfold Graph.tag
    rw [node_put]
    split
    · next hid =>
      rw [← hid.1]
      rcases htag with hsame | hstr
      · rw [hsame]
        exact h.tag i
      · exact .inr hstr
    · exact h.tag id
  · rw [node_put] at ht
    split at ht
    · next hid =>
      rw [← hid.1]
      exact h.text i t (htext t ht)
    · exact h.text id t ht

end Graph

/-! ## Taking over entries -/

namespace Merging

/-- The faults that are found while entries are taken over. -/
def IsFault (fault : Fault) : Prop := fault = .malformed ∨ fault = .circular

theorem isFault_malformed : IsFault .malformed := .inl rfl

theorem isFault_circular : IsFault .circular := .inr rfl

/-- A computation on nodes that come from those of a graph. -/
abbrev Stays {α : Type} (g₀ : Graph) (x : Merging α) : Prop :=
  Keeps (Graph.ComesFrom · g₀) IsFault x fun _ => True

theorem stays_entries (id : NodeId) : Stays g₀ (entries id) := by
  unfold entries
  refine Keeps.get.bind fun g _ => ?_
  split
  · exact Keeps.pure trivial
  · exact Keeps.throw isFault_malformed

theorem stays_setEntries (id : NodeId) (es : List Pair) : Stays g₀ (setEntries id es) :=
  Keeps.modify (fun _ hg => hg.put (.inl rfl) fun _ h => by cases h) trivial

theorem stays_settleKey (e : Pair) : Stays g₀ (settleKey e) := by
  refine Keeps.modify (fun g hg => ?_) trivial
  dsimp only
  split
  · exact hg.put (.inr rfl) fun _ h => h
  · exact hg

/-- All computations with some fuel that take over entries. -/
structure AllStay (g₀ : Graph) (fuel : Nat) : Prop where
  /-- Gathering entries. -/
  gather : ∀ id passed taken, Stays g₀ (gather fuel id passed taken)
  /-- The entries under a merge key. -/
  sources : ∀ id, Stays g₀ (sources fuel id)
  /-- One mapping. -/
  settle : ∀ id, Stays g₀ (settle fuel id)

theorem stays_gather_succ (h : AllStay g₀ fuel) (id : NodeId) (passed : Nat) (taken : List Pair) :
    Stays g₀ (gather (fuel + 1) id passed taken) := by
  rw [gather]
  refine (stays_entries id).bind fun es _ => Keeps.get.bind fun g _ => ?_
  refine (Keeps.forM stays_settleKey _).bind fun _ _ => ?_
  dsimp only
  split
  · exact Keeps.pure trivial
  · next source _ =>
    split
    · exact Keeps.throw_bind isFault_malformed
    · refine (stays_setEntries id _).bind fun _ _ => (h.sources source).bind fun more _ => ?_
      exact h.gather id _ _

theorem stays_sources_succ (h : AllStay g₀ fuel) (source : NodeId) :
    Stays g₀ (sources (fuel + 1) source) := by
  rw [sources]
  refine Keeps.get.bind fun g _ => ?_
  split
  · exact (h.settle source).bind fun _ _ => stays_entries source
  · refine (Keeps.mapM (fun item => ?_) _).bind fun _ _ => Keeps.pure trivial
    exact (stays_entries item).bind fun _ _ => (h.settle item).bind fun _ _ => stays_entries item
  · exact Keeps.throw isFault_malformed

theorem stays_settle_succ (h : AllStay g₀ fuel) (id : NodeId) :
    Stays g₀ (settle (fuel + 1) id) := by
  rw [settle]
  refine (h.gather id 0 []).bind fun taken _ => ?_
  split
  · refine (stays_entries id).bind fun own _ => Keeps.modify (fun g hg => ?_) trivial
    exact hg.put (.inl rfl) fun _ ht => by cases ht
  · exact Keeps.pure trivial

theorem allStay (g₀ : Graph) (fuel : Nat) : AllStay g₀ fuel := by
  induction fuel with
  | zero =>
    -- Out of fuel, the mapping counts as one that takes over its own entries.
    refine ⟨fun id passed taken => ?_, fun id => ?_, fun id => ?_⟩
    · rw [gather]
      exact Keeps.throw isFault_circular
    · rw [sources]
      exact Keeps.throw isFault_circular
    · rw [settle]
      exact Keeps.throw isFault_circular
  | succ fuel ih => exact ⟨stays_gather_succ ih, stays_sources_succ ih, stays_settle_succ ih⟩

end Merging

/-- Taking over entries keeps what nodes may become. -/
theorem Graph.comesFrom_flatten (h : g.ComesFrom g₀) (id : NodeId) :
    match g.flatten id with
    | .ok g' => g'.ComesFrom g₀
    | .error fault => Merging.IsFault fault := by
  have hstays := (Merging.allStay g₀ (3 * g.entryCount + 3)).settle id g h
  unfold Graph.flatten
  rcases hrun : (Merging.settle (3 * g.entryCount + 3) id).run g with fault | ⟨⟨⟩, g'⟩
  · rw [hrun] at hstays
    exact hstays
  · rw [hrun] at hstays
    exact hstays.1

/-! ## Scalars -/

/-- A text gives a value of most kinds, or the fault is one of the rules. -/
theorem Scalar.tag_of_value {older : Bool} {tag : Tag} {t : Text}
    (h : Scalar.value older tag t = .error fault) (hfault : fault ≠ .malformed) :
    tag = .bool ∨ tag = .int ∨ tag = .double ∨ tag = .timestamp := by
  cases tag with
  | bool => exact .inl rfl
  | int => exact .inr (.inl rfl)
  | double => exact .inr (.inr (.inl rfl))
  | timestamp => exact .inr (.inr (.inr rfl))
  | null => cases h
  | str => cases h
  | binary =>
    obtain ⟨bytes, hbinary⟩ | hbinary : (∃ bytes, Scalar.binary t = .ok bytes) ∨
        Scalar.binary t = .error .malformed := by
      unfold Scalar.binary
      split
      · exact .inr rfl
      · split
        · exact .inr rfl
        · split
          · exact .inl ⟨_, rfl⟩
          · exact .inr rfl
    · rw [Scalar.value, hbinary] at h
      cases h
    · rw [Scalar.value, hbinary] at h
      cases h
      exact absurd rfl hfault
  | _ =>
    cases h
    exact absurd rfl hfault

/-- The text of a scalar of a document gives no value of the kind of a node. -/
def Graph.HasStrayScalar (g : Graph) (older : Bool) (fault : Fault) : Prop :=
  ∃ id leaf t, (g.node leaf).content = .scalar t ∧ Scalar.value older (g.tag id) t = .error fault

/-- The faults that are about keys. -/
inductive Fault.ConcernsKeys : Fault → Prop
  /-- A key is of a kind that cannot be one. -/
  | unfit (kind : String) : ConcernsKeys (.unfitKey kind)
  /-- A key of an ordered mapping stands there twice. -/
  | repeated : ConcernsKeys .repeatedKey
  /-- A key stands twice in a mapping, and a message about it cannot be written. -/
  | unwritable : ConcernsKeys .unwritable

/-- The faults that a document may have behind the grammar. -/
inductive Graph.MayFail (g : Graph) (older : Bool) : Fault → Prop
  /-- A rule for kinds, anchors or keys is broken. -/
  | malformed : MayFail g older .malformed
  /-- A part of the document contains itself. -/
  | circular : MayFail g older .circular
  /-- A key is unfit. -/
  | key {fault : Fault} (h : fault.ConcernsKeys) : MayFail g older fault
  /-- A scalar gives no value of its kind. -/
  | scalar {fault : Fault} (h : g.HasStrayScalar older fault) : MayFail g older fault

theorem Merging.IsFault.mayFail {older : Bool} (h : Merging.IsFault fault) :
    g₀.MayFail older fault := by
  rcases h with rfl | rfl
  · exact .malformed
  · exact .circular

/-! ## Working out values -/

namespace Build

variable {older : Bool}

/-- The nodes of a document that is being worked out come from those of a graph. -/
def Holds (g₀ : Graph) (older : Bool) (s : Builder) : Prop :=
  s.graph.ComesFrom g₀ ∧ s.older = older

/-- A computation on a document whose nodes come from those of a graph. -/
abbrev Stays {α : Type} (g₀ : Graph) (older : Bool) (x : Build α) : Prop :=
  Keeps (Holds g₀ older) (g₀.MayFail older) x fun _ => True

theorem stays_ofExcept {α : Type} {r : Except Fault α}
    (h : ∀ fault, r = .error fault → g₀.MayFail older fault) : Stays g₀ older (ofExcept r) := by
  cases r with
  | ok a => exact Keeps.pure trivial
  | error fault => exact Keeps.throw (h fault rfl)

/-- Nothing changes about the nodes where neither they nor the version are replaced. -/
theorem stays_modify {f : Builder → Builder} (hgraph : ∀ s, (f s).graph = s.graph)
    (holder : ∀ s, (f s).older = s.older) :
    Stays g₀ older (modify f : Build PUnit) := by
  refine Keeps.modify (fun s hs => ?_) trivial
  unfold Holds
  rw [hgraph, holder]
  exact hs

theorem stays_modify_bind {α : Type} {f : Builder → Builder} {next : PUnit → Build α}
    (hgraph : ∀ s, (f s).graph = s.graph) (holder : ∀ s, (f s).older = s.older)
    (hnext : ∀ u, Stays g₀ older (next u)) : Stays g₀ older (modify f >>= next) :=
  (stays_modify hgraph holder).bind fun u _ => hnext u

theorem stays_set_bind {α : Type} {s s' : Builder} {next : PUnit → Build α}
    (hs : Holds g₀ older s) (hgraph : s'.graph = s.graph) (holder : s'.older = s.older)
    (hnext : ∀ u, Stays g₀ older (next u)) : Stays g₀ older (set s' >>= next) := by
  have hs' : Holds g₀ older s' := by
    unfold Holds
    rw [hgraph, holder]
    exact hs
  have hset : Stays g₀ older (set s' : Build PUnit) := Keeps.set hs' trivial
  exact hset.bind fun u _ => hnext u

/-- A change that is made only in some cases does not matter if it is none of the nodes. -/
theorem stays_first {α : Type} {b : Bool} {f : Builder → Builder} {x : Build α}
    (hgraph : ∀ s, (f s).graph = s.graph) (holder : ∀ s, (f s).older = s.older)
    (hx : Stays g₀ older x) : Stays g₀ older (if b then modify f >>= fun _ => x else x) := by
  split
  · exact stays_modify_bind hgraph holder fun _ => hx
  · exact hx

theorem stays_addBox (b : Box) : Stays g₀ older (addBox b) := by
  unfold addBox
  exact Keeps.get.bind fun s hs => stays_set_bind hs rfl rfl fun _ => Keeps.pure trivial

theorem stays_setBox (id : BoxId) (b : Box) : Stays g₀ older (setBox id b) :=
  stays_modify (fun _ => rfl) fun _ => rfl

theorem stays_keep (job : Job) : Stays g₀ older (keep job) :=
  stays_modify (fun _ => rfl) fun _ => rfl

/-- The text that stands for a node is that of a scalar of the document. -/
theorem keeps_scalarText (fuel : Nat) (id : NodeId) :
    Keeps (Holds g₀ older) (g₀.MayFail older) (scalarText fuel id)
      fun t => ∃ leaf, (g₀.node leaf).content = .scalar t := by
  induction fuel generalizing id with
  | zero =>
    rw [scalarText]
    exact Keeps.throw .circular
  | succ fuel ih =>
    rw [scalarText]
    refine Keeps.get.bind fun s hs => ?_
    dsimp only
    split
    · next t ht => exact Keeps.pure ⟨id, hs.1.text id t ht⟩
    · split
      · exact ih _
      · exact Keeps.throw .malformed
    · exact Keeps.throw .malformed

/-- A scalar of a document gives a value of its kind, or the document has a text that gives none. -/
theorem mayFail_of_value {s : Builder} (hs : Holds g₀ older s) {id leaf : NodeId} {t : Text}
    (ht : (g₀.node leaf).content = .scalar t)
    (h : Scalar.value s.older (s.graph.node id).tag t = .error fault) :
    g₀.MayFail older fault := by
  rw [hs.2] at h
  rcases hs.1.tag id with hsame | hstr
  · exact .scalar ⟨id, leaf, t, ht, by rw [← hsame]; exact h⟩
  · -- A value key has become a text, and a text is a value of its kind.
    rw [show (s.graph.node id).tag = .str from hstr] at h
    cases h

theorem stays_single (id : NodeId) : Stays g₀ older (single id) := by
  unfold single
  refine Keeps.get.bind fun s hs => ?_
  -- Once the text of the node is known, only working out its value can fail.
  have hvalue : ∀ t, (∃ leaf, (g₀.node leaf).content = .scalar t) → ∀ next : Value → Build Item,
      (∀ v, Stays g₀ older (next v)) →
        Stays g₀ older (ofExcept (Scalar.value s.older (s.graph.node id).tag t) >>= next) := by
    rintro t ⟨leaf, ht⟩ next hnext
    exact (stays_ofExcept fun fault hfault => mayFail_of_value hs ht hfault).bind fun v _ => hnext v
  dsimp only
  split
  · next t _ ht =>
    rw [pure_bind]
    refine hvalue t ⟨id, hs.1.text id t ht⟩ _ fun v => ?_
    split
    · exact Keeps.pure trivial
    · exact Keeps.pure trivial
  · split
    · refine (keeps_scalarText _ id).bind fun t ht => hvalue t ht _ fun v => ?_
      split
      · exact Keeps.pure trivial
      · exact Keeps.pure trivial
    · exact Keeps.throw_bind .malformed

theorem stays_asKey (i : Item) : Stays g₀ older (asKey i) := by
  unfold asKey
  split
  · refine Keeps.get.bind fun s _ => ?_
    split
    · exact Keeps.pure trivial
    · exact Keeps.throw .malformed
  · exact Keeps.pure trivial

theorem stays_checkKey (i : Item) : Stays g₀ older (checkKey i) := by
  unfold checkKey
  refine Keeps.get.bind fun s _ => ?_
  split
  · next kind _ => exact Keeps.throw (.key (.unfit kind))
  · exact Keeps.pure trivial

theorem stays_repeated (key old new : Item) : Stays g₀ older (repeated key old new) := by
  unfold repeated
  refine Keeps.get.bind fun s _ => ?_
  dsimp only
  split
  · exact Keeps.throw_bind .malformed
  · exact Keeps.throw (.key .unwritable)

theorem stays_addEntry (unique : Bool) (done : List (Item × Item)) (key v : Item) :
    Stays g₀ older (addEntry unique done key v) := by
  unfold addEntry
  refine (stays_checkKey key).bind fun _ _ => ?_
  split
  · split
    · exact (stays_repeated _ _ _).bind fun _ _ => Keeps.pure trivial
    · exact Keeps.pure trivial
  · exact Keeps.pure trivial

theorem stays_flatten (id : NodeId) : Stays g₀ older (flatten id) := by
  unfold flatten
  refine Keeps.get.bind fun s hs => ?_
  have hflatten := Graph.comesFrom_flatten hs.1 id
  rcases hresult : s.graph.flatten id with fault | g
  · rw [hresult] at hflatten
    exact Keeps.throw_bind hflatten.mayFail
  · rw [hresult] at hflatten
    exact Keeps.set ⟨hflatten, hs.2⟩ trivial

theorem stays_onlyEntry (id : NodeId) : Stays g₀ older (onlyEntry id) := by
  unfold onlyEntry
  refine Keeps.get.bind fun s _ => ?_
  split
  · exact Keeps.pure trivial
  · exact Keeps.throw .malformed

/-- All computations with some fuel that work out parts of a document. -/
structure AllStay (g₀ : Graph) (older : Bool) (fuel : Nat) : Prop where
  /-- The item of a node. -/
  construct : ∀ whole id, Stays g₀ older (construct fuel whole id)
  /-- The item of a node that has not been met before. -/
  open_ : ∀ id, Stays g₀ older (open_ fuel id)
  /-- The parts of a collection. -/
  fill : ∀ job, Stays g₀ older (fill fuel job)
  /-- An entry of an ordered mapping. -/
  addOrdered : ∀ box done id, Stays g₀ older (addOrdered fuel box done id)
  /-- An entry of a list of pairs. -/
  addPair : ∀ box done id, Stays g₀ older (addPair fuel box done id)
  /-- The entries of a mapping. -/
  mapping : ∀ id, Stays g₀ older (mapping fuel id)
  /-- An entry of a mapping. -/
  addNext : ∀ unique done e, Stays g₀ older (addNext fuel unique done e)

theorem stays_construct_succ (h : AllStay g₀ older fuel) (whole : Bool) (id : NodeId) :
    Stays g₀ older (construct (fuel + 1) whole id) := by
  rw [construct]
  refine Keeps.get.bind fun s _ => ?_
  split
  · exact Keeps.pure trivial
  · refine stays_first (fun _ => rfl) (fun _ => rfl) ?_
    split
    · exact Keeps.pure trivial
    · refine stays_modify_bind (fun _ => rfl) (fun _ => rfl) fun _ => ?_
      refine (h.open_ id).bind fun item _ => ?_
      exact stays_modify_bind (fun _ => rfl) (fun _ => rfl) fun _ => Keeps.pure trivial

theorem stays_open_succ (h : AllStay g₀ older fuel) (id : NodeId) :
    Stays g₀ older (open_ (fuel + 1) id) := by
  rw [open_]
  refine Keeps.get.bind fun s _ => ?_
  dsimp only
  split
  · exact stays_single id
  · refine (stays_addBox _).bind fun box _ => ?_
    split
    · exact (h.fill _).bind fun _ _ => Keeps.pure trivial
    · exact (stays_keep _).bind fun _ _ => Keeps.pure trivial

theorem stays_fill_succ (h : AllStay g₀ older fuel) (job : Job) :
    Stays g₀ older (fill (fuel + 1) job) := by
  rw [fill]
  refine Keeps.get.bind fun s _ => ?_
  split
  · exact (Keeps.mapM (h.construct false) _).bind fun _ _ => stays_setBox _ _
  · exact (h.mapping _).bind fun _ _ => stays_setBox _ _
  · exact (h.mapping _).bind fun _ _ => stays_setBox _ _
  · exact (Keeps.foldlM (h.addOrdered job.box) _ []).bind fun _ _ => Keeps.pure trivial
  · exact (Keeps.foldlM (h.addPair job.box) _ []).bind fun _ _ => Keeps.pure trivial
  · exact Keeps.throw .malformed

theorem stays_addOrdered_succ (h : AllStay g₀ older fuel) (box : BoxId)
    (done : List (Item × Item)) (id : NodeId) :
    Stays g₀ older (addOrdered (fuel + 1) box done id) := by
  rw [addOrdered]
  refine (stays_onlyEntry id).bind fun e _ => ?_
  refine (h.construct false e.1).bind fun key _ => (stays_checkKey key).bind fun _ _ => ?_
  split
  · exact Keeps.throw_bind (.key .repeated)
  · refine (h.construct false e.2).bind fun v _ => ?_
    exact (stays_setBox _ _).bind fun _ _ => Keeps.pure trivial

theorem stays_addPair_succ (h : AllStay g₀ older fuel) (box : BoxId) (done : List Item)
    (id : NodeId) : Stays g₀ older (addPair (fuel + 1) box done id) := by
  rw [addPair]
  refine (stays_onlyEntry id).bind fun e _ => (h.construct false e.1).bind fun key _ => ?_
  refine (h.construct false e.2).bind fun v _ => ?_
  exact (stays_setBox _ _).bind fun _ _ => Keeps.pure trivial

theorem stays_mapping_succ (h : AllStay g₀ older fuel) (id : NodeId) :
    Stays g₀ older (mapping (fuel + 1) id) := by
  rw [mapping]
  -- The entries that were taken over are worked out first, and then those of the mapping.
  refine (stays_flatten id).bind fun _ _ => Keeps.get.bind fun s _ => ?_
  refine (Keeps.foldlM (h.addNext _) _ []).bind fun taken _ => ?_
  exact (Keeps.foldlM (h.addNext _) _ []).bind fun own _ => Keeps.pure trivial

theorem stays_addNext_succ (h : AllStay g₀ older fuel) (unique : Bool)
    (done : List (Item × Item)) (e : Pair) :
    Stays g₀ older (addNext (fuel + 1) unique done e) := by
  rw [addNext]
  refine (h.construct true e.1).bind fun item _ => (stays_asKey item).bind fun key _ => ?_
  exact (h.construct false e.2).bind fun v _ => stays_addEntry unique done key v

theorem allStay (g₀ : Graph) (older : Bool) (fuel : Nat) : AllStay g₀ older fuel := by
  induction fuel with
  | zero =>
    -- Out of fuel, the document counts as one that contains itself.
    have hstop {α : Type} : Stays g₀ older (throw .circular : Build α) := Keeps.throw .circular
    refine ⟨fun whole id => ?_, fun id => ?_, fun job => ?_, fun box done id => ?_,
      fun box done id => ?_, fun id => ?_, fun unique done e => ?_⟩
    · rw [construct]
      exact hstop
    · rw [open_]
      exact hstop
    · rw [fill]
      exact hstop
    · rw [addOrdered]
      exact hstop
    · rw [addPair]
      exact hstop
    · rw [mapping]
      exact hstop
    · rw [addNext]
      exact hstop
  | succ fuel ih =>
    exact ⟨stays_construct_succ ih, stays_open_succ ih, stays_fill_succ ih,
      stays_addOrdered_succ ih, stays_addPair_succ ih, stays_mapping_succ ih,
      stays_addNext_succ ih⟩

theorem stays_finish (count : Nat) : Stays g₀ older (finish count) := by
  induction count with
  | zero => exact Keeps.pure trivial
  | succ count ih =>
    rw [finish]
    refine Keeps.get.bind fun s hs => ?_
    split
    · exact Keeps.pure trivial
    · next job _ =>
      refine stays_set_bind hs rfl rfl fun _ => ?_
      exact ((allStay g₀ older _).fill job).bind fun _ _ => ih

/-- Working out the value of a node finds no fault but those that the document may have. -/
theorem keeps_value (id : NodeId) : Stays g₀ older (value id) := by
  unfold value
  refine Keeps.get.bind fun s _ => ((allStay g₀ older _).construct false id).bind fun item _ => ?_
  exact (stays_finish _).bind fun _ _ => Keeps.get.bind fun _ _ => Keeps.pure trivial

end Build

/-! ## Documents -/

/-- A fault of a document is one of its grammar, or else its nodes may have it. -/
theorem fault_of_read {cs : List Char} (h : read cs = .error fault) :
    compose cs = .error fault ∨
      ∃ g root schema, compose cs = .ok (g, root, schema) ∧ g.MayFail (schema = .older) fault := by
  unfold read at h
  rcases hcompose : compose cs with fault' | ⟨g, root, schema⟩
  · rw [hcompose] at h
    cases h
    exact .inl rfl
  · refine .inr ⟨g, root, schema, rfl, ?_⟩
    rw [hcompose] at h
    let start : Builder :=
      ⟨g, schema = .older, #[], Array.replicate g.size none, [], false, #[], 0⟩
    have hrun : ((Build.value root).run start).map (·.1) = .error fault := h
    have hvalue := Build.keeps_value root start ⟨.refl g, rfl⟩
    rcases hresult : (Build.value root).run start with fault' | ⟨v, s⟩
    · rw [hresult] at hvalue hrun
      cases hrun
      exact hvalue
    · rw [hresult] at hrun
      cases hrun

end Yaml

end StyleImport
