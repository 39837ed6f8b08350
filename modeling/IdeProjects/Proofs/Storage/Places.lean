import IdeProjects.Proofs.Path.Entry
import IdeProjects.Storage.FileTree
import Mathlib.Data.List.Induction

/-!
# `IdeProjects.Proofs.Storage.Places`: what stands where, and where paths lead

Two things move when a tree changes: what stands at a place
(`FileTree.node?`) and where a path leads (`FileTree.locate`). The
lemmas here settle both once, and no later proof walks a path again.

* `node?_put`: a node that is put changes its own place and no other.
* `follow_concat`: the walk along a path with one part more is the walk
  along the path, and one step from the directory it has led to. All
  other facts about walks follow from this equation.
* `follow_of_keepsDirectories`: a walk sees nothing but the directories
  it passes, so a tree that keeps all directories keeps the way to each
  of them.
* `locate_child`: where the path of an entry of a directory leads. The
  walk to the directory does not matter any more, only what stands at
  the one place.
-/

set_option autoImplicit false

namespace IdeProjects

namespace FileTree

/-- The bytes of the regular file at a place. -/
def bytes? (t : FileTree) (place : Location) : Option (List UInt8) :=
  match t.node? place with
  | some (.file bytes) => some bytes
  | _ => none

/-- What stands at a place decides its bytes. -/
theorem bytes?_congr {t t' : FileTree} {place : Location} (h : t'.node? place = t.node? place) :
    t'.bytes? place = t.bytes? place := by
  rw [bytes?, bytes?, h]

/-! ### Putting a node -/

/-- A node that was put is found at its place. All other places have
what they had. -/
theorem lookup_putNode (place q : Location) (x : Node) (nodes : List (Location × Node)) :
    (putNode place x nodes).lookup q = if q = place then some x else nodes.lookup q := by
  induction nodes with
  | nil =>
      rw [putNode, List.lookup_cons]
      by_cases hq : q = place
      · simp [hq]
      · rw [beq_eq_false_iff_ne.mpr hq, if_neg hq]
  | cons entry rest ih =>
      obtain ⟨other, old⟩ := entry
      by_cases hother : other = place
      · subst hother
        rw [putNode, if_pos rfl, List.lookup_cons, List.lookup_cons]
        by_cases hq : q = other
        · simp [hq]
        · rw [beq_eq_false_iff_ne.mpr hq, if_neg hq]
      · -- The entry in front is kept. Its place can be `q`, but then `q` is
        -- not the place of the new node.
        rw [putNode, if_neg hother, List.lookup_cons, List.lookup_cons, ih]
        by_cases hq : q = other
        · simp [hq, hother]
        · rw [beq_eq_false_iff_ne.mpr hq]

/-- Putting the node that stands at a place changes nothing. -/
theorem putNode_of_lookup {place : Location} {x : Node} {nodes : List (Location × Node)}
    (h : nodes.lookup place = some x) : putNode place x nodes = nodes := by
  induction nodes with
  | nil => simp at h
  | cons entry rest ih =>
      obtain ⟨other, old⟩ := entry
      by_cases hother : place = other
      · subst hother
        simp only [List.lookup_cons_self, Option.some.injEq] at h
        simp [putNode, h]
      · rw [List.lookup_cons, beq_eq_false_iff_ne.mpr hother] at h
        rw [putNode, if_neg (Ne.symm hother), ih h]

/-- The root is a directory. -/
@[simp] theorem node?_nil (t : FileTree) : t.node? [] = some .directory := rfl

/-- The working directory stays where it is. -/
@[simp] theorem base_put (t : FileTree) (place : Location) (x : Node) :
    (t.put place x).base = t.base := rfl

/-- What stands at a place after a node was put below the root. -/
theorem node?_put (t : FileTree) {place : Location} (hplace : place ≠ []) (x : Node)
    (q : Location) :
    (t.put place x).node? q = if q = place then some x else t.node? q := by
  by_cases hq : q = []
  · subst hq
    simp [Ne.symm hplace]
  · simp [node?, put, hq, lookup_putNode]

/-- A tree with the node at the place is the tree with the node put
there. -/
theorem put_of_node? {t : FileTree} {place : Location} {x : Node} (hplace : place ≠ [])
    (h : t.node? place = some x) : t.put place x = t := by
  have hlookup : t.nodes.lookup place = some x := by simpa [node?, hplace] using h
  simp [put, putNode_of_lookup hlookup]

/-- The node that was put last is the one that counts. -/
theorem putNode_putNode (place : Location) (x y : Node) (nodes : List (Location × Node)) :
    putNode place y (putNode place x nodes) = putNode place y nodes := by
  induction nodes with
  | nil => simp [putNode]
  | cons entry rest ih =>
      obtain ⟨other, old⟩ := entry
      by_cases hother : other = place
      · simp [putNode, hother]
      · simp [putNode, hother, ih]

/-- Two nodes can be put in either order if the place of the first is
taken already: a new place goes after all others. -/
theorem putNode_comm {p q : Location} (hne : p ≠ q) (x y : Node)
    {nodes : List (Location × Node)} (hp : (nodes.lookup p).isSome) :
    putNode q y (putNode p x nodes) = putNode p x (putNode q y nodes) := by
  induction nodes with
  | nil => simp at hp
  | cons entry rest ih =>
      obtain ⟨other, old⟩ := entry
      by_cases hself : other = p
      · subst hself
        simp [putNode, hne]
      · by_cases hother : other = q
        · subst hother
          simp [putNode, Ne.symm hne]
        · rw [List.lookup_cons, beq_eq_false_iff_ne.mpr (Ne.symm hself)] at hp
          simp [putNode, hself, hother, ih hp]

/-- What is put at a place last counts. -/
theorem put_put (t : FileTree) (place : Location) (x y : Node) :
    (t.put place x).put place y = t.put place y := by
  simp [put, putNode_putNode]

/-- It does not matter which of two places is filled first, if something
stands at the first already: then its entry keeps its turn. -/
theorem put_comm {t : FileTree} {p q : Location} (hp : p ≠ []) (hne : p ≠ q) (x y : Node)
    (hthere : (t.node? p).isSome) :
    (t.put p x).put q y = (t.put q y).put p x := by
  have hlookup : (t.nodes.lookup p).isSome := by simpa [node?, hp] using hthere
  simp [put, putNode_comm hne x y hlookup]

/-! ### Walks -/

/-- A walk that ends at a node ends where that node stands. What it reports
can therefore be looked up again without the way that led there. -/
theorem node?_of_follow {t : FileTree} {parts : List String} :
    ∀ {place d : Location} {x : Node}, t.follow place parts = .ok (.node d x) →
      t.node? d = some x := by
  -- Along the parts, for all places to start from: a step goes on from
  -- another place. Every end but the one at a node is excluded by `h`.
  induction parts with
  | nil =>
      intro place d x h
      simp only [follow] at h
      split at h
      · rename_i node hnode
        cases h
        exact hnode
      · cases h
  | cons part rest ih =>
      intro place d x h
      simp only [follow] at h
      split at h
      · cases h
      · cases h
      · split at h
        · exact ih h
        · split at h
          · cases h
          · split at h
            · cases h
            · exact ih h

/-- The walk along a path with one part more. It goes on from a
directory only; where nothing stands, or a file does, it ends. -/
theorem follow_concat (t : FileTree) (n : String) (parts : List String) :
    ∀ place : Location, t.follow place (parts ++ [n]) =
      match t.follow place parts with
      | .ok (.node d .directory) => t.follow d [n]
      | .ok (.node _ (.file _)) => .error .notDirectory
      | .ok (.vacant _) => .error .notFound
      | .error issue => .error issue := by
  induction parts with
  | nil =>
      intro place
      cases hnode : t.node? place with
      | none => simp [follow, hnode]
      | some x => cases x <;> simp [follow, hnode]
  | cons part rest ih =>
      intro place
      have hrest : (rest ++ [n]).isEmpty = false := by simp
      cases hnode : t.node? place with
      | none => simp [follow, hnode]
      | some x =>
          cases x with
          | file bytes => simp [follow, hnode]
          | directory =>
              rw [List.cons_append, follow, hnode, follow, hnode]
              by_cases hup : part = ".."
              · simpa only [if_pos hup] using ih place.dropLast
              · by_cases hlong : part.utf8ByteSize > maxName
                · simp only [if_neg hup, if_pos hlong]
                · -- A vacant end is reported by the shorter walk alone;
                  -- the longer one finds nothing to go on from.
                  by_cases hend : (rest.isEmpty && (t.node? (place ++ [part])).isNone) = true
                  · obtain ⟨hnil, hnone⟩ : rest = [] ∧ t.node? (place ++ [part]) = none := by
                      simpa using hend
                    simp [follow, hup, hlong, hnil, hnone]
                  · simp only [if_neg hup, if_neg hlong, if_neg hend, hrest, Bool.false_and,
                      Bool.false_eq_true, if_false]
                    exact ih (place ++ [part])

/-- One step from a directory to an entry of it. -/
theorem follow_entry {t : FileTree} {d : Location} {n : String}
    (hd : t.node? d = some .directory) (hn : n ≠ "..") :
    t.follow d [n] =
      if n.utf8ByteSize > maxName then .error .nameTooLong
      else match t.node? (d ++ [n]) with
        | some x => .ok (.node (d ++ [n]) x)
        | none => .ok (.vacant (d ++ [n])) := by
  cases hentry : t.node? (d ++ [n]) <;> simp [follow, hd, hn, hentry]

/-- A walk ends at a vacant place only in its last step, one step from a
directory it has led to. -/
theorem follow_vacant {t : FileTree} {place v : Location} {parts : List String}
    (h : t.follow place parts = .ok (.vacant v)) :
    ∃ init n d, parts = init ++ [n] ∧ n ≠ ".." ∧ n.utf8ByteSize ≤ maxName ∧
      t.follow place init = .ok (.node d .directory) ∧ v = d ++ [n] ∧
      t.node? v = none := by
  -- Not an induction from the front: what matters is the last part, and
  -- `follow_concat` cuts it off.
  rcases List.eq_nil_or_concat parts with rfl | ⟨init, n, rfl⟩
  · simp only [follow] at h
    split at h <;> cases h
  · rw [List.concat_eq_append, follow_concat] at h
    split at h
    · rename_i d hd
      have hnode := node?_of_follow hd
      by_cases hup : n = ".."
      · -- A step up ends where a directory is or was, at a node or nowhere.
        subst hup
        simp only [follow, hnode, if_true] at h
        split at h <;> cases h
      · rw [follow_entry hnode hup] at h
        by_cases hlong : n.utf8ByteSize > maxName
        · simp [hlong] at h
        · simp only [if_neg hlong] at h
          split at h
          · cases h
          · rename_i hnone
            cases h
            exact ⟨init, n, d, by simp, hup, by omega, hd, rfl, hnone⟩
    · cases h
    · cases h
    · cases h

/-- A walk without `..` goes down: it ends at the parts below its
start. -/
theorem follow_down {t : FileTree} {parts : List String} (hdots : ".." ∉ parts) :
    ∀ {place d : Location} {x : Node}, t.follow place parts = .ok (.node d x) →
      d = place ++ parts := by
  induction parts with
  | nil =>
      intro place d x h
      simp only [follow] at h
      split at h
      · cases h
        simp
      · cases h
  | cons part rest ih =>
      intro place d x h
      obtain ⟨hpart, hrest⟩ : ".." ≠ part ∧ ".." ∉ rest := by
        simpa using hdots
      simp only [follow, if_neg (Ne.symm hpart)] at h
      split at h
      · cases h
      · cases h
      · split at h
        · cases h
        · split at h
          · cases h
          · simpa using ih hrest h

/-! ### Trees that keep their directories -/

/-- Every directory of `t` is a directory of `t'`, and relative paths
start at one place in both. -/
structure KeepsDirectories (t t' : FileTree) : Prop where
  base_eq : t'.base = t.base
  directory : ∀ place, t.node? place = some .directory → t'.node? place = some .directory

/-- The way to a directory passes directories only, so it stays where
they stay. -/
theorem follow_of_keepsDirectories {t t' : FileTree} (hkeep : KeepsDirectories t t')
    {parts : List String} :
    ∀ {place d : Location}, t.follow place parts = .ok (.node d .directory) →
      t'.follow place parts = .ok (.node d .directory) := by
  -- From the end: the walk to the directory before is one to a directory
  -- again, while the rest of a walk may start at a place that is gone.
  induction parts using List.reverseRecOn with
  | nil =>
      intro place d h
      simp only [follow] at h ⊢
      split at h
      · rename_i x hx
        cases h
        rw [hkeep.directory place hx]
      · cases h
  | append_singleton init n ih =>
      intro place d h
      rw [follow_concat] at h ⊢
      split at h
      · rename_i d' hd'
        rw [ih hd']
        have hnode := node?_of_follow hd'
        have hnode' := hkeep.directory d' hnode
        by_cases hup : n = ".."
        · subst hup
          simp only [follow, hnode, hnode', if_true] at h ⊢
          split at h
          · rename_i x hx
            cases h
            rw [hkeep.directory _ hx]
          · cases h
        · rw [follow_entry hnode hup] at h
          simp only [follow_entry hnode' hup]
          split at h
          · cases h
          · rename_i hshort
            split at h
            · rename_i x hx
              cases h
              rw [if_neg hshort, hkeep.directory _ hx]
            · cases h
      · cases h
      · cases h
      · cases h

/-- Putting a node keeps the directories, unless it takes the place of
one and is none. -/
theorem keepsDirectories_put {t : FileTree} {place : Location} {x : Node}
    (hplace : place ≠ []) (h : t.node? place = some .directory → x = .directory) :
    KeepsDirectories t (t.put place x) where
  base_eq := rfl
  directory q hq := by
    rw [node?_put t hplace]
    split
    · rename_i heq
      subst heq
      rw [h hq]
    · exact hq

/-! ### Where a path leads -/

/-- What a path leads to is what the walk along its parts finds. -/
theorem locate_eq_ok_iff {t : FileTree} {p : Path} {found : Found} :
    t.locate p = .ok found ↔ p.hasNull = false ∧ p.text.utf8ByteSize ≤ maxPath ∧
      t.follow (if p.isAbsolute then [] else t.base) p.parts = .ok found := by
  unfold locate find
  by_cases hnull : p.hasNull = true
  · simp [hnull]
  · by_cases hlong : p.text.utf8ByteSize > maxPath
    · have hnot : ¬ p.text.utf8ByteSize ≤ maxPath := by omega
      simp [hnull, hlong, hnot]
    · have hle : p.text.utf8ByteSize ≤ maxPath := by omega
      simp only [if_neg hnull, if_neg hlong]
      cases hwalk : t.follow (if p.isAbsolute then [] else t.base) p.parts <;>
        simp [hnull, hle]

/-- A path that leads nowhere has a null character, is too long, or ends
the walk along its parts. -/
theorem locate_eq_error {t : FileTree} {p : Path} {fault : Fault}
    (h : t.locate p = .error fault) :
    (p.hasNull = true ∧ fault = .nullCharacter) ∨
      ∃ issue, p.hasNull = false ∧ fault = .file ⟨issue, p.text⟩ ∧
        ((p.text.utf8ByteSize > maxPath ∧ issue = .nameTooLong) ∨
          t.follow (if p.isAbsolute then [] else t.base) p.parts = .error issue) := by
  unfold locate at h
  split at h
  · rename_i hnull
    cases h
    exact Or.inl ⟨hnull, rfl⟩
  · rename_i hnull
    unfold find at h
    split at h
    · cases h
    · rename_i issue hfind
      cases h
      refine Or.inr ⟨issue, by simpa using hnull, rfl, ?_⟩
      split at hfind
      · rename_i hlong
        cases hfind
        exact Or.inl ⟨hlong, rfl⟩
      · exact Or.inr hfind

/-- A path that leads to a node leads to what stands there. -/
theorem node?_of_locate {t : FileTree} {p : Path} {d : Location} {x : Node}
    (h : t.locate p = .ok (.node d x)) : t.node? d = some x :=
  node?_of_follow (locate_eq_ok_iff.mp h).2.2

/-- The way to a directory stays where the directories stay. -/
theorem locate_of_keepsDirectories {t t' : FileTree} (hkeep : KeepsDirectories t t')
    {p : Path} {d : Location} (h : t.locate p = .ok (.node d .directory)) :
    t'.locate p = .ok (.node d .directory) := by
  rw [locate_eq_ok_iff] at h ⊢
  obtain ⟨hnull, hlong, hwalk⟩ := h
  refine ⟨hnull, hlong, ?_⟩
  rw [hkeep.base_eq]
  exact follow_of_keepsDirectories hkeep hwalk

/-- A path that leads to a vacant place leads to the node once one is
put there. -/
theorem locate_put_of_vacant {t : FileTree} {p : Path} {v : Location}
    (h : t.locate p = .ok (.vacant v)) :
    v ≠ [] ∧ t.node? v = none ∧ ∀ x, (t.put v x).locate p = .ok (.node v x) := by
  obtain ⟨hnull, hlong, hwalk⟩ := locate_eq_ok_iff.mp h
  obtain ⟨init, n, d, hparts, hup, hshort, hinit, hv, hnone⟩ := follow_vacant hwalk
  have hne : v ≠ [] := by simp [hv]
  refine ⟨hne, hnone, fun x => ?_⟩
  have hkeep : KeepsDirectories t (t.put v x) :=
    keepsDirectories_put hne (by simp [hnone])
  rw [locate_eq_ok_iff]
  refine ⟨hnull, hlong, ?_⟩
  -- The way to the directory is the same; only the last step finds more.
  rw [hparts, base_put, follow_concat, follow_of_keepsDirectories hkeep hinit]
  have hd : (t.put v x).node? d = some .directory :=
    hkeep.directory d (node?_of_follow hinit)
  have hentry : (t.put v x).node? (d ++ [n]) = some x := by
    rw [node?_put t hne, if_pos hv.symm]
  have hnot : ¬ n.utf8ByteSize > maxName := by omega
  show (t.put v x).follow d [n] = .ok (.node v x)
  rw [follow_entry hd hup, if_neg hnot, hentry, hv]

/-- A path from the root without `..` leads to the place of its parts. -/
theorem locate_down {t : FileTree} {p : Path} (habs : p.isAbsolute = true)
    (hdots : ".." ∉ p.parts) {found : Found} (h : t.locate p = .ok found) :
    found = .vacant p.parts ∨ ∃ x, found = .node p.parts x := by
  obtain ⟨_, _, hwalk⟩ := locate_eq_ok_iff.mp h
  rw [if_pos habs] at hwalk
  cases found with
  | node d x =>
      right
      exact ⟨x, by rw [follow_down hdots hwalk, List.nil_append]⟩
  | vacant v =>
      left
      obtain ⟨init, n, d, hparts, _, _, hinit, hv, _⟩ := follow_vacant hwalk
      have hdots' : ".." ∉ init := by
        intro hmem
        exact hdots (by simp [hparts, hmem])
      rw [hv, follow_down hdots' hinit, List.nil_append, hparts]

/-! ### Entries of a directory -/

/-- Whether the limits on lengths allow the path of an entry `n` of the
directory `p`. -/
def Fits (p : Path) (n : String) : Prop :=
  (p.child n).text.utf8ByteSize ≤ maxPath ∧ n.utf8ByteSize ≤ maxName

instance (p : Path) (n : String) : Decidable (Fits p n) :=
  inferInstanceAs (Decidable (_ ∧ _))

/-- Where the path of an entry of a directory leads: to what stands at
the one place below the directory, whatever the way to it was. -/
theorem locate_child {t : FileTree} {p : Path} {d : Location} {n : String}
    (hd : t.locate p = .ok (.node d .directory)) (hn : n ≠ "..")
    (hnull : n.toList.contains '\x00' = false) :
    t.locate (p.child n) =
      if Fits p n then
        match t.node? (d ++ [n]) with
        | some x => .ok (.node (d ++ [n]) x)
        | none => .ok (.vacant (d ++ [n]))
      else .error (.file ⟨.nameTooLong, (p.child n).text⟩) := by
  obtain ⟨hpnull, _, hwalk⟩ := locate_eq_ok_iff.mp hd
  have hchild : (p.child n).hasNull = false := by
    rw [Path.hasNull_child, hpnull, hnull, Bool.or_false]
  have hstep : t.follow (if (p.child n).isAbsolute then [] else t.base) (p.child n).parts =
      t.follow d [n] := by
    rw [Path.isAbsolute_child, Path.parts_child, follow_concat, hwalk]
  rw [follow_entry (node?_of_locate hd) hn] at hstep
  unfold locate find
  rw [hchild, hstep]
  -- The two limits are checked at different times, the one on the whole
  -- path before the walk and the one on the name in its last step.
  by_cases hlong : (p.child n).text.utf8ByteSize > maxPath
  · have hfits : ¬ Fits p n := fun hfits => by
      have := hfits.1
      omega
    simp [hlong, hfits]
  · by_cases hname : n.utf8ByteSize > maxName
    · have hfits : ¬ Fits p n := fun hfits => by
        have := hfits.2
        omega
      simp [hlong, hname, hfits]
    · have hfits : Fits p n := ⟨by omega, by omega⟩
      simp only [if_neg hlong, if_neg hname, if_pos hfits, Bool.false_eq_true, if_false]
      cases t.node? (d ++ [n]) <;> rfl

/-- The path of an entry of what is no directory leads nowhere. It is
too long only if the limits do not allow it or the path before it is too
long already. -/
theorem locate_child_of_no_directory {t : FileTree} {p : Path} {n : String}
    (hno : ∀ d, t.locate p ≠ .ok (.node d .directory))
    (hnull : (p.child n).hasNull = false) :
    ∃ issue, t.locate (p.child n) = .error (.file ⟨issue, (p.child n).text⟩) ∧
      (issue = .nameTooLong →
        ¬ Fits p n ∨ t.locate p = .error (.file ⟨.nameTooLong, p.text⟩)) := by
  have hpnull : p.hasNull = false := by
    rw [Path.hasNull_child, Bool.or_eq_false_iff] at hnull
    exact hnull.1
  unfold locate find
  rw [hnull]
  -- The whole path is too long, or the walk along `p` comes to no
  -- directory and its end is the reason.
  by_cases hlong : (p.child n).text.utf8ByteSize > maxPath
  · refine ⟨.nameTooLong, by simp [hlong], fun _ => Or.inl fun hfits => ?_⟩
    have := hfits.1
    omega
  · have hplong : ¬ p.text.utf8ByteSize > maxPath := by
      have := Path.text_le_of_child (p := p) (n := n) maxPath (by decide) (by omega)
      omega
    rw [if_neg hlong, hpnull, if_neg hplong, Path.isAbsolute_child, Path.parts_child,
      follow_concat]
    cases hwalk : t.follow (if p.isAbsolute then [] else t.base) p.parts with
    | error issue => exact ⟨issue, by simp, fun h => Or.inr (by simp [h])⟩
    | ok found =>
        cases found with
        | vacant v => exact ⟨.notFound, by simp, nofun⟩
        | node d x =>
            cases x with
            | file bytes => exact ⟨.notDirectory, by simp, nofun⟩
            | directory => exact absurd (locate_eq_ok_iff.mpr ⟨hpnull, by omega, hwalk⟩) (hno d)

/-- A path that leads somewhere has passed the directory above. -/
theorem locate_parent {t : FileTree} {p : Path} {found : Found} (hparts : p.parts ≠ [])
    (h : t.locate p = .ok found) : ∃ d, t.locate p.parent = .ok (.node d .directory) := by
  obtain ⟨n, hp⟩ := Path.eq_child_of_parts_ne_nil hparts
  by_contra hnone
  have hno : ∀ d, t.locate p.parent ≠ .ok (.node d .directory) := fun d hd => hnone ⟨d, hd⟩
  have hnull : (p.parent.child n).hasNull = false := hp ▸ (locate_eq_ok_iff.mp h).1
  obtain ⟨issue, herror, _⟩ := locate_child_of_no_directory hno hnull
  rw [← hp, h] at herror
  cases herror

end FileTree

end IdeProjects
