import Mathlib.Algebra.BigOperators.Group.List.Basic
import Mathlib.Tactic.Ring

/-!
# The actions of a menu that have a shortcut

`Util::getAllActionsHavingShortcut` walks the menus below a menu through a queue. Menus are
objects that entries refer to, so an entry may refer to the menu it stands in; such an
entry counts as an action of its own.
-/

namespace VookiViewer

/-- The address of a `QMenu`. -/
abbrev QMenuId := Nat

/-- A `QAction`: an entry of a menu, itself or through a submenu it opens. Two actions
with the same texts are still two objects. -/
structure QAction where
  id : Nat
  whatsThis : String
  toolTip : String
  isSeparator : Bool
  menu : Option QMenuId
deriving DecidableEq

/-- The submenu an entry of `menu` opens. An entry that refers to `menu` opens none. -/
def QAction.submenu (action : QAction) (menu : QMenuId) : Option QMenuId :=
  if action.isSeparator then none else action.menu.filter (· ≠ menu)

/-- An entry of `menu` that the shortcuts are about. -/
def QAction.qualifies (action : QAction) (menu : QMenuId) : Bool :=
  !action.isSeparator && (action.submenu menu).isNone && action.whatsThis ≠ ""

/-- The menus of the application. They are nested finitely deep: what an entry opens is
lower than the menu of the entry. -/
structure QMenus where
  actions : QMenuId → List QAction
  height : QMenuId → Nat
  height_lt : ∀ menu, ∀ action ∈ actions menu, ∀ sub, action.submenu menu = some sub →
    height sub < height menu

namespace Util

/-- The name filters for some image formats, `*.png` for `PNG`. -/
def convertFormatsToFilters (formats : List String) : List String :=
  formats.foldl (fun filters format =>
    filters ++ ["*." ++ String.ofList (format.toList.map Char.toLower)]) []

/-- The body of the loop over the entries of a menu. -/
def visit (unprocessedMenu : QMenuId) (s : List QMenuId × List QAction) (action : QAction) :
    List QMenuId × List QAction :=
  if action.isSeparator then s
  else
    match action.menu.filter (· ≠ unprocessedMenu) with
    | some menu => (s.1 ++ [menu], s.2)
    | none => if action.whatsThis = "" then s else (s.1, s.2 ++ [action])

/-- One entry goes to the queue, to the result, or nowhere. -/
theorem visit_eq (menu : QMenuId) (s : List QMenuId × List QAction) (action : QAction) :
    visit menu s action =
      (s.1 ++ (action.submenu menu).toList,
        s.2 ++ if action.qualifies menu = true then [action] else []) := by
  unfold visit QAction.qualifies QAction.submenu
  by_cases hsep : action.isSeparator = true
  · simp [hsep]
  · cases hmenu : action.menu.filter (· ≠ menu) with
    | some sub => simp [hsep]
    | none =>
        by_cases htext : action.whatsThis = "" <;> simp [hsep, htext]

/-- The loop over the entries of a menu. -/
def visitAll (unprocessedMenu : QMenuId) (actions : List QAction)
    (s : List QMenuId × List QAction) : List QMenuId × List QAction :=
  actions.foldl (visit unprocessedMenu) s

/-- The loop appends the submenus to the queue and the qualifying actions to the result,
both in the order of the menu. -/
theorem visitAll_eq (menu : QMenuId) (actions : List QAction)
    (s : List QMenuId × List QAction) :
    visitAll menu actions s =
      (s.1 ++ actions.filterMap (·.submenu menu), s.2 ++ actions.filter (·.qualifies menu)) := by
  unfold visitAll
  induction actions generalizing s with
  | nil => simp
  | cons action actions ih =>
      rw [List.foldl_cons, ih, visit_eq]
      cases hsub : action.submenu menu <;> by_cases hq : action.qualifies menu = true <;>
        simp [hsub, hq]

end Util

namespace QMenus

variable (M : QMenus)

/-- The menus the entries of a menu open. -/
def submenus (menu : QMenuId) : List QMenuId :=
  (M.actions menu).filterMap (·.submenu menu)

/-- The entries of a menu that the shortcuts are about. -/
def qualifying (menu : QMenuId) : List QAction :=
  (M.actions menu).filter (·.qualifies menu)

theorem height_submenus {menu sub : QMenuId} (h : sub ∈ M.submenus menu) :
    M.height sub < M.height menu := by
  rcases List.mem_filterMap.mp h with ⟨action, hmem, hsub⟩
  exact M.height_lt menu action hmem sub hsub

/-- A menu at the bottom opens no other. -/
theorem submenus_eq_nil {menu : QMenuId} (h : M.height menu = 0) : M.submenus menu = [] := by
  apply List.eq_nil_iff_forall_not_mem.mpr
  intro sub hsub
  have hlt := M.height_submenus hsub
  omega

/-- The number of menus from a menu down, as far as `n` levels. -/
def countBelow : Nat → QMenuId → Nat
  | 0, _ => 1
  | n + 1, menu => 1 + ((M.submenus menu).map (countBelow n)).sum

/-- The number of menus from a menu down: the work that a menu in the queue stands for. -/
def count (menu : QMenuId) : Nat := M.countBelow (M.height menu) menu

/-- More levels than the height of a menu count nothing new. -/
theorem countBelow_congr {n k : Nat} {menu : QMenuId} (hn : M.height menu ≤ n)
    (hk : M.height menu ≤ k) : M.countBelow n menu = M.countBelow k menu := by
  -- down both counts of levels, to a menu of height 0, which opens none
  induction n generalizing menu k with
  | zero =>
      rcases k with _ | k
      · rfl
      · simp [countBelow, M.submenus_eq_nil (Nat.le_zero.mp hn)]
  | succ n ih =>
      rcases k with _ | k
      · simp [countBelow, M.submenus_eq_nil (Nat.le_zero.mp hk)]
      · have hmap : (M.submenus menu).map (M.countBelow n) =
            (M.submenus menu).map (M.countBelow k) := by
          -- the menus below are lower, so both counts are still large enough
          apply List.map_congr_left
          intro sub hsub
          have hlt := M.height_submenus hsub
          exact ih (by omega) (by omega)
        simp only [countBelow, hmap]

/-- A menu counts one more than the menus it opens. -/
theorem count_eq (menu : QMenuId) : M.count menu = 1 + ((M.submenus menu).map M.count).sum := by
  have hstep : M.count menu = M.countBelow (M.height menu + 1) menu :=
    M.countBelow_congr (Nat.le_refl _) (Nat.le_succ _)
  rw [hstep, countBelow]
  congr 2
  apply List.map_congr_left
  intro sub hsub
  have hlt := M.height_submenus hsub
  exact M.countBelow_congr (by omega) (Nat.le_refl _)

end QMenus

namespace Util

/-- The loop over the queue of menus. -/
def processMenus (M : QMenus) (unprocessedMenus : List QMenuId) (result : List QAction) :
    List QAction :=
  match unprocessedMenus with
  | [] => result
  | unprocessedMenu :: rest =>
      let s := visitAll unprocessedMenu (M.actions unprocessedMenu) (rest, result)
      processMenus M s.1 s.2
termination_by (unprocessedMenus.map M.count).sum
decreasing_by
  -- the menu leaves the queue and the submenus that enter it count one less than it
  rw [visitAll_eq, List.map_append, List.sum_append, List.map_cons, List.sum_cons, M.count_eq]
  show (rest.map M.count).sum + ((M.submenus unprocessedMenu).map M.count).sum < _
  omega

def getAllActionsHavingShortcut (M : QMenus) (menu : QMenuId) : List QAction :=
  processMenus M [menu] []

@[simp] theorem processMenus_nil (M : QMenus) (result : List QAction) :
    processMenus M [] result = result := by
  rw [processMenus]

/-- One turn of the loop, in the terms of the menu that leaves the queue. -/
theorem processMenus_cons (M : QMenus) (menu : QMenuId) (rest : List QMenuId)
    (result : List QAction) :
    processMenus M (menu :: rest) result =
      processMenus M (rest ++ M.submenus menu) (result ++ M.qualifying menu) := by
  rw [processMenus, visitAll_eq]
  rfl

end Util

end VookiViewer
