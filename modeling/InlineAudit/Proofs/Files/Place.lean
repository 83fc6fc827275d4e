import InlineAudit.Files.Node

/-!
Places in a directory tree. `Reaches` says which node the names of a place lead to, from directory
to directory. In a well-formed tree siblings have different names, so a place leads to one node
only, and whatever lies behind a file's place is the file itself.
-/

namespace InlineAudit.Files

open Text

namespace Node

mutual

/-- Below a node, names are single components and siblings have different names. What the node
itself is called does not matter. -/
def WellFormed : Node → Prop
  | file _ _ _ => True
  | link _ _ => True
  | dir _ entries _ => WellFormedAll entries

def WellFormedAll : List Node → Prop
  | [] => True
  | node :: rest =>
    '/' ∉ node.name.toList ∧ (∀ other ∈ rest, other.name ≠ node.name) ∧
      node.WellFormed ∧ WellFormedAll rest

end

mutual

/-- At and below a node, all directories can be listed, and what stands in them be looked at. -/
def Readable : Node → Prop
  | file _ _ _ => True
  | link _ _ => True
  | dir _ entries access => access.read = true ∧ access.search = true ∧ ReadableAll entries

def ReadableAll : List Node → Prop
  | [] => True
  | node :: rest => node.Readable ∧ ReadableAll rest

end

@[simp]
theorem name_file (name : String) (content : Bytes) (access : Access) :
    (file name content access).name = name := rfl

@[simp]
theorem name_dir (name : String) (entries : List Node) (access : Access) :
    (dir name entries access).name = name := rfl

/-- From a node, the names of a place lead to another one. Only directories are gone through. -/
inductive Reaches : Node → List String → Node → Prop
  | here (node : Node) : Reaches node [] node
  | into {name : String} {entries : List Node} {access : Access} {child target : Node}
      {place : List String} (hchild : child ∈ entries) (h : Reaches child place target) :
      Reaches (dir name entries access) (child.name :: place) target

/-- Induction over a tree: what holds for a directory if it holds for all its entries holds for
every node. -/
@[elab_as_elim]
theorem inductionOn {motive : Node → Prop} (node : Node)
    (file : ∀ name content access, motive (file name content access))
    (link : ∀ name target, motive (link name target))
    (dir : ∀ name entries access, (∀ child ∈ entries, motive child) →
      motive (dir name entries access)) :
    motive node := by
  refine @Node.rec motive (fun entries => ∀ child ∈ entries, motive child)
    file link (fun name entries access h => dir name entries access h) (by simp) ?_ node
  intro child rest hchild hrest
  exact List.forall_mem_cons.mpr ⟨hchild, hrest⟩

theorem ReadableAll.of_mem {entries : List Node} (h : ReadableAll entries) {child : Node}
    (hchild : child ∈ entries) : child.Readable := by
  induction entries with
  | nil => cases hchild
  | cons first rest ih =>
    rcases List.mem_cons.mp hchild with rfl | hchild
    · exact h.1
    · exact ih h.2 hchild

theorem WellFormedAll.of_mem {entries : List Node} (h : WellFormedAll entries) {child : Node}
    (hchild : child ∈ entries) : '/' ∉ child.name.toList ∧ child.WellFormed := by
  induction entries with
  | nil => cases hchild
  | cons first rest ih =>
    obtain ⟨hname, -, hfirst, hrest⟩ := h
    rcases List.mem_cons.mp hchild with rfl | hchild
    · exact ⟨hname, hfirst⟩
    · exact ih hrest hchild

theorem WellFormedAll.names_distinct {entries : List Node} (h : WellFormedAll entries) :
    entries.Pairwise fun a b => a.name ≠ b.name := by
  induction entries with
  | nil => exact .nil
  | cons first rest ih =>
    obtain ⟨-, hother, -, hrest⟩ := h
    exact List.pairwise_cons.mpr ⟨fun other hmem => (hother other hmem).symm, ih hrest⟩

/-- An entry is known by its name. -/
theorem WellFormedAll.eq_of_name {entries : List Node} (h : WellFormedAll entries) {a b : Node}
    (ha : a ∈ entries) (hb : b ∈ entries) (hname : a.name = b.name) : a = b := by
  induction entries with
  | nil => cases ha
  | cons first rest ih =>
    obtain ⟨-, hother, -, hrest⟩ := h
    rcases List.mem_cons.mp ha with rfl | ha'
    · rcases List.mem_cons.mp hb with rfl | hb'
      · rfl
      · exact absurd hname.symm (hother b hb')
    · rcases List.mem_cons.mp hb with rfl | hb'
      · exact absurd hname (hother a ha')
      · exact ih hrest ha' hb'

namespace Reaches

variable {node middle target : Node} {place rest : List String}

/-- The last name on the way is that of the node it ends at. -/
theorem getLast_name (h : node.Reaches place target) :
    (node.name :: place).getLast? = some target.name := by
  induction h with
  | here node => rfl
  | @into name entries access child target place hchild h ih =>
    rw [List.getLast?_cons_cons]
    exact ih

theorem no_slash (h : node.Reaches place target) (hnode : node.WellFormed) :
    ∀ part ∈ place, '/' ∉ part.toList := by
  induction h with
  | here node => simp
  | @into name entries access child target place hchild h ih =>
    obtain ⟨hname, hwell⟩ := WellFormedAll.of_mem hnode hchild
    exact List.forall_mem_cons.mpr ⟨hname, ih hwell⟩

/-- A longer way goes through every node that a first part of it leads to. -/
theorem behind (hmiddle : node.Reaches place middle) (htarget : node.Reaches (place ++ rest) target)
    (hnode : node.WellFormed) : middle.Reaches rest target := by
  induction hmiddle with
  | here node => exact htarget
  | @into name entries access child middle place hchild h ih =>
    rw [List.cons_append] at htarget
    generalize hplace : child.name :: (place ++ rest) = whole at htarget
    cases htarget with
    | here => cases hplace
    | @into _ _ _ other _ _ hother htarget =>
      obtain ⟨hname, rfl⟩ := List.cons.inj hplace
      obtain rfl := WellFormedAll.eq_of_name hnode hchild hother hname
      exact ih htarget (WellFormedAll.of_mem hnode hchild).2

/-- Nothing lies below a file. -/
theorem eq_nil_of_file {name : String} {content : Bytes} {access : Access}
    (h : (file name content access).Reaches place target) : place = [] := by
  cases h
  rfl

end Reaches

end Node

end InlineAudit.Files
