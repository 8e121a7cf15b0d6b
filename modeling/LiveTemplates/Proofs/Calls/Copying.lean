/-
# LiveTemplates.Proofs.Calls.Copying -- each copy is wired where it is the clone

A tree is copied node by node, and each copy is wired when it is complete.  What is known of
wiring one copy is known of all of them, in the order in which they are completed; and each is a
clone of the node at its own address.

* `Plants`: copies are wired one after the other, and between them nodes are mended;
* `Copies`, `CopiesAll`: copying a tree, or several below a node, wires the clones of its nodes;
* `Tells.copy_plants`, `Tells.copyAll_plants`: so it does, if wiring a copy does nothing to other
  nodes.
-/
import LiveTemplates.Proofs.Calls.Faithful
import LiveTemplates.Proofs.Forest.Cloning
import LiveTemplates.Proofs.Node.Addresses

namespace LiveTemplates

set_option autoImplicit false

variable {σ ω : Type}

/-- What is known of wiring a copy: of its address and number, of what is wired up before and
behind, of the worlds before and behind, and of the calls. -/
abbrev WiredUp (σ ω : Type) :=
  List Nat → NodeId → ω → ω → World σ → List (Episode σ) → World σ → Prop

/-- Copies are wired one after the other, and between them nodes are mended. -/
inductive Plants (P : WiredUp σ ω) :
    List (List Nat × NodeId) → ω → World σ → List (Episode σ) → ω → World σ → Prop
  | done (s : ω) (w : World σ) : Plants P [] s w [] s w
  | grow {places : List (List Nat × NodeId)} {s t : ω} {w v : World σ} {es : List (Episode σ)}
      {forest : Forest} (mends : w.forest.Mends 0 forest)
      (later : Plants P places s { w with forest := forest } es t v) : Plants P places s w es t v
  | step {address : List Nat} {live : NodeId} {places : List (List Nat × NodeId)} {r s t : ω}
      {w v x : World σ} {es fs : List (Episode σ)} (inside : live < w.forest.size)
      (wired : P address live r s w es v) (later : Plants P places s v fs t x) :
      Plants P ((address, live) :: places) r w (es ++ fs) t x

theorem Plants.append {P : WiredUp σ ω} {first second : List (List Nat × NodeId)} {r s t : ω}
    {w v x : World σ} {es fs : List (Episode σ)} (before : Plants P first r w es s v)
    (after : Plants P second s v fs t x) : Plants P (first ++ second) r w (es ++ fs) t x := by
  induction before with
  | done => exact after
  | grow mends _ ih => exact .grow mends (ih after)
  | step inside wired _ ih =>
      rw [List.append_assoc]
      exact .step inside wired (ih after)

/-- A tree has been copied, from an address of a template on: its copies were wired, each is the
clone of the node at its address, and the copy of its root has no parent. -/
structure Copies (P : WiredUp σ ω) (root : Tree) (address : List Nat) (t : Tree) (r s : ω)
    (live : NodeId) (places : List (List Nat × NodeId)) (w : World σ) (es : List (Episode σ))
    (v : World σ) : Prop where
  addresses : places.map (·.1) = t.completed.map (address ++ ·)
  plants : Plants P places r w es s v
  sprouts : ∃ t', w.forest.Sprouts v.forest live t'
  distinct : (places.map (·.2)).Nodup
  clones : ∀ p ∈ places, (∃ rest, p.1 = address ++ rest ∧
    v.forest.Reaches w.forest.size live rest p.2) ∧ v.forest.Resembles root p.1 p.2

/-- The trees below a node of a template have been copied, from an index on, to the end of the
children of a node. -/
structure CopiesAll (P : WiredUp σ ω) (root : Tree) (address : List Nat) (i : Nat) (ts : List Tree)
    (parent : NodeId) (r s : ω) (ns : List NodeId) (places : List (List Nat × NodeId)) (w : World σ)
    (es : List (Episode σ)) (v : World σ) : Prop where
  addresses : places.map (·.1) = (Tree.completedAmong i ts).map (address ++ ·)
  plants : Plants P places r w es s v
  grows : ∃ ts', ∀ d, w.forest.Grows v.forest parent d d ns ts'
  distinct : (places.map (·.2)).Nodup
  clones : ∀ p ∈ places, (∃ k rest n, p.1 = address ++ (i + k) :: rest ∧ ns[k]? = some n ∧
    v.forest.Reaches w.forest.size n rest p.2) ∧ v.forest.Resembles root p.1 p.2

variable {P : WiredUp σ ω} {root : Tree} {address : List Nat} {parent live : NodeId}
  {i : Nat} {t : Tree} {ts : List Tree} {r s q : ω} {ns : List NodeId}
  {first places : List (List Nat × NodeId)} {w v x : World σ} {es fs : List (Episode σ)}

/-- Nothing is left to copy. -/
theorem CopiesAll.nil (P : WiredUp σ ω) (root : Tree) (address : List Nat) (i : Nat)
    (parent : NodeId) (s : ω) (w : World σ) : CopiesAll P root address i [] parent s s [] [] w [] w where
  addresses := rfl
  plants := .done s w
  grows := ⟨[], fun d => .refl w.forest parent d⟩
  distinct := List.nodup_nil
  clones := nofun

/-- A tree is copied and put at the end of the children, and then the others are. -/
theorem CopiesAll.cons (one : Copies P root (address ++ [i]) t r s live first w es v)
    (inside : parent < w.forest.size)
    (others : CopiesAll P root address (i + 1) ts parent s q ns places
      { v with forest := v.forest.append parent live } fs x) :
    CopiesAll P root address i (t :: ts) parent r q (live :: ns) (first ++ places) w (es ++ fs) x := by
  obtain ⟨t', sprouts⟩ := one.sprouts
  obtain ⟨ts', grows⟩ := others.grows
  have loose : v.forest.parent? live = none := by
    cases sprouts.shown with
    | node _ here _ => rw [Forest.parent?, here]; rfl
  have apart : parent ≠ live := by
    cases sprouts.shown with
    | node new _ _ =>
        intro same
        exact absurd inside (Nat.not_lt.2 (same ▸ new))
  have put := Forest.Mends.append loose apart
  have mends : v.forest.Mends 0 x.forest := put.trans (Forest.Dresses.mends ⟨[], _, _, grows⟩)
  have size : (v.forest.append parent live).size = v.forest.size := Forest.size_append _ _ _
  refine ⟨?_, one.plants.append (.grow put others.plants), ⟨t' :: ts', fun d => ?_⟩, ?_, ?_⟩
  · simp [one.addresses, others.addresses, Tree.completedAmong]
  · exact (sprouts.append inside d).trans (grows d) inside
  · -- the first ones were there before any of the others was made
    rw [List.map_append, List.nodup_append]
    refine ⟨one.distinct, others.distinct, fun n here m there => ?_⟩
    obtain ⟨p, member, rfl⟩ := List.mem_map.1 here
    obtain ⟨p', member', rfl⟩ := List.mem_map.1 there
    obtain ⟨-, less, -⟩ := one.clones p member
    obtain ⟨⟨_, _, _, -, -, reaches⟩, -⟩ := others.clones p' member'
    have more : v.forest.size ≤ p'.2 := size ▸ reaches.new
    exact Nat.ne_of_lt (Nat.lt_of_lt_of_le less more)
  · intro p member
    rcases List.mem_append.1 member with here | there
    · obtain ⟨⟨rest, same, reaches⟩, resembles⟩ := one.clones p here
      refine ⟨⟨0, rest, live, by simp [same], rfl, ?_⟩, resembles.mends (Nat.zero_le _) mends⟩
      exact reaches.mends (mends.raise (Nat.zero_le _))
    · obtain ⟨⟨k, rest, n, same, listed, reaches⟩, resembles⟩ := others.clones p there
      refine ⟨⟨k + 1, rest, n, ?_, listed, reaches.lower ?_⟩, resembles⟩
      · rw [same, Nat.add_right_comm, Nat.add_assoc]
      · have grown := (sprouts.append inside .document).size
        exact grown

/-- A node is added, the trees below it are copied to it, and it is wired. -/
theorem Copies.node {d : NodeData} {us : List Tree} (here : root.at? address = some (.node d us))
    (below : CopiesAll P root address 0 us w.forest.size r s ns places
      { w with forest := (w.forest.add d).2 } es v)
    (inside : w.forest.size < v.forest.size)
    (wired : P address w.forest.size s q v fs x) (dresses : v.forest.Dresses x.forest w.forest.size) :
    Copies P root address (.node d us) r q w.forest.size (places ++ [(address, w.forest.size)]) w
      (es ++ fs) x := by
  obtain ⟨ts', grows⟩ := below.grows
  have mends := dresses.mends
  have added : (w.forest.add d).2.size = w.forest.size + 1 := Forest.size_add w.forest d
  have old : w.forest.size < (w.forest.add d).2.size := added ▸ Nat.lt_succ_self _
  have dressed : ∃ sets, x.forest.data w.forest.size = d.dress sets := by
    have grown : (w.forest.add d).2.Dresses v.forest w.forest.size := ⟨[], _, _, grows⟩
    obtain ⟨sets, same⟩ := (grown.mends.trans mends).data w.forest.size (Nat.zero_le _) old
    refine ⟨sets, ?_⟩
    rw [same]
    congr
    simp [Forest.data, Forest.getElem?_add]
  have listed : ns <+: x.forest.children w.forest.size := by
    have own : (w.forest.add d).2.nodes[w.forest.size]? = some { data := d } := by
      rw [Forest.getElem?_add, if_pos rfl]
    have top := (grows d).grown _ _ own
    have children : v.forest.children w.forest.size = ns := by simp [Forest.children, top]
    rw [← children]
    exact mends.children _ (Nat.zero_le _) inside
  refine ⟨?_, .grow (.add w.forest d) (below.plants.append ?_), ?_, ?_, ?_⟩
  · simp [below.addresses, Tree.completed]
  · have last := Plants.step inside wired (.done q x)
    rwa [List.append_nil] at last
  · obtain ⟨sets, ms, more, furnished⟩ := dresses
    exact ⟨_, ((grows d).trans (furnished d) old).sprouts⟩
  · rw [List.map_append, List.nodup_append]
    refine ⟨below.distinct, List.nodup_singleton _, fun n there m own => ?_⟩
    obtain ⟨p, member, rfl⟩ := List.mem_map.1 there
    obtain ⟨⟨_, _, _, -, -, reaches⟩, -⟩ := below.clones p member
    have more : (w.forest.add d).2.size ≤ p.2 := reaches.new
    rw [List.map_singleton, List.mem_singleton] at own
    rw [own]
    exact Nat.ne_of_gt (Nat.lt_of_lt_of_le old more)
  · intro p member
    rcases List.mem_append.1 member with there | own
    · obtain ⟨⟨k, rest, n, same, root, reaches⟩, resembles⟩ := below.clones p there
      refine ⟨⟨k :: rest, by simpa using same, .down (c := n) (Nat.le_refl _) ?_ ?_⟩,
        resembles.mends (Nat.zero_le _) mends⟩
      · obtain ⟨_, longer⟩ := listed
        rw [← longer, List.getElem?_append_left (List.getElem?_eq_some_iff.1 root).1, root]
      · exact (reaches.lower (Nat.le_of_lt old)).mends (mends.raise (Nat.zero_le _))
    · rw [List.mem_singleton.1 own]
      refine ⟨⟨[], by simp, .here (Nat.le_refl _)⟩, Nat.lt_of_lt_of_le inside mends.size, ?_⟩
      obtain ⟨sets, same⟩ := dressed
      exact ⟨d, us, sets, here, same⟩

/-! ## Copying -/

namespace Tells

variable {wire : List Nat → NodeId → ω → Run σ ω} {wire' : List Nat → NodeId → ω → Told σ ω}

mutual

/-- Copying a tree wires the clones of its nodes. -/
theorem copy_plants
    (wires : ∀ address live s, Tells (P address live s) (wire address live s) (wire' address live s))
    (dresses : ∀ {address live r s w es v}, P address live r s w es v → live < w.forest.size →
      w.forest.Dresses v.forest live) :
    ∀ (t : Tree) {address : List Nat}, root.at? address = some t → ∀ r : ω,
      Tells (fun p w es v => ∃ places, Copies P root address t r p.2 p.1 places w es v)
        (Wiring.copy wire address t r) (Told.copy wire' address t r)
  | .node d us, address, here, r => by
      rw [Wiring.copy, Told.copy_node]
      refine bind (step (Run.run_onForest _)) (fun live =>
        bind (copyAll_plants wires dresses us here (i := 0) rfl live r) (fun s =>
          bind (wires address live s) (fun q => value (live, q))
            (S := fun p w es v => ∃ q, p = (live, q) ∧ P address live s q w es v) ?_)
          (S := fun p w es v => ∃ s q x before behind, p = (live, q) ∧ es = before ++ behind ∧
            (live < w.forest.size → ∃ ns places,
              CopiesAll P root address 0 us live r s ns places w before x) ∧
            P address live s q x behind v) ?_) ?_
      · rintro q p w es v fs x wired ⟨rfl, rfl, rfl⟩
        rw [List.append_nil]
        exact ⟨q, rfl, wired⟩
      · rintro s p w es v fs x below ⟨q, rfl, wired⟩
        exact ⟨s, q, v, es, fs, rfl, rfl, below, wired⟩
      · rintro _ p w _ _ fs y ⟨rfl, rfl, rfl⟩ ⟨s, q, x, before, behind, rfl, rfl, below, wired⟩
        have size : w.forest.size < (w.forest.add d).2.size :=
          Forest.size_add w.forest d ▸ Nat.lt_succ_self _
        obtain ⟨ns, places, copies⟩ := below size
        obtain ⟨_, grows⟩ := copies.grows
        have inside := Nat.lt_of_lt_of_le size (grows .document).size
        have node := Copies.node here copies inside wired (dresses wired inside)
        exact ⟨_, node⟩

/-- So does copying the children of a node. -/
theorem copyAll_plants
    (wires : ∀ address live s, Tells (P address live s) (wire address live s) (wire' address live s))
    (dresses : ∀ {address live r s w es v}, P address live r s w es v → live < w.forest.size →
      w.forest.Dresses v.forest live) {d : NodeData} {us : List Tree} :
    ∀ (ts : List Tree) {address : List Nat}, root.at? address = some (.node d us) → ∀ {i : Nat},
      us.drop i = ts → ∀ (parent : NodeId) (r : ω),
      Tells (fun s w es v => parent < w.forest.size → ∃ ns places,
          CopiesAll P root address i ts parent r s ns places w es v)
        (Wiring.copyAll wire parent address i ts r) (Told.copyAll wire' parent address i ts r)
  | [], address, _, i, _, parent, r => by
      rw [Wiring.copyAll, Told.copyAll_nil]
      exact pure fun w _ => ⟨[], [], .nil P root address i parent r w⟩
  | t :: ts, address, here, i, rest, parent, r => by
      have first : root.at? (address ++ [i]) = some t := by
        have own : us[i]? = some t := by rw [← List.head?_drop, rest]; rfl
        rw [Tree.at?_append, here]
        simp [Tree.at?, own]
      have remaining : us.drop (i + 1) = ts := by rw [← List.tail_drop, rest]; rfl
      rw [Wiring.copyAll, Told.copyAll_cons]
      refine bind (copy_plants wires dresses t first r) (fun p => bind (step fun _ => rfl)
        (fun _ => copyAll_plants wires dresses ts here remaining parent p.2)
          (S := fun s w es v => parent < w.forest.size → ∃ ns places,
            CopiesAll P root address (i + 1) ts parent p.2 s ns places
              { w with forest := w.forest.append parent p.1 } es v) ?_) ?_
      · rintro _ s w _ _ fs x ⟨-, rfl, rfl⟩ copies inside
        exact copies (by rw [Forest.size_append]; exact inside)
      · rintro p s w es v fs x ⟨places, one⟩ others inside
        obtain ⟨_, sprouts⟩ := one.sprouts
        have grown := (sprouts.append inside .document).size
        rw [Forest.size_append] at grown
        obtain ⟨ns, more, copies⟩ := others (Nat.lt_of_lt_of_le inside grown)
        exact ⟨_, _, .cons one inside copies⟩

end

end Tells

end LiveTemplates
