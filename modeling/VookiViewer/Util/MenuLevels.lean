import VookiViewer.Lib.Levels
import VookiViewer.Util.Misc

/-!
# The actions of a tree of menus

The queue of `Util::getAllActionsHavingShortcut` holds the menus of one level and then those of
the next. In a tree of menus the result has every action that the shortcuts are about once,
level by level.
-/

namespace VookiViewer

/-- An entry qualifies if it is no separator, opens no other menu and has a text. -/
theorem QAction.qualifies_iff {action : QAction} {menu : QMenuId} :
    action.qualifies menu = true ↔ action.isSeparator = false ∧
      (∀ other, action.menu = some other → other = menu) ∧ action.whatsThis ≠ "" := by
  unfold QAction.qualifies QAction.submenu
  cases hsep : action.isSeparator with
  | true => simp
  | false =>
      cases hmenu : action.menu with
      | none => simp
      | some other => by_cases hother : other = menu <;> simp [hother]

/-- An entry opens a menu if it is no separator and refers to one it does not stand in. -/
theorem QAction.submenu_eq_some_iff {action : QAction} {menu sub : QMenuId} :
    action.submenu menu = some sub ↔
      action.isSeparator = false ∧ action.menu = some sub ∧ sub ≠ menu := by
  unfold QAction.submenu
  cases hsep : action.isSeparator with
  | true => simp
  | false => simp [Option.filter_eq_some_iff]

namespace QMenus

variable (M : QMenus)

/-- The menus that entries open, from `root` on and so many levels below it. -/
def Opened (root : QMenuId) (depth : ℕ) (menu : QMenuId) : Prop :=
  Levels.Below M.submenus root depth menu

/-- The menus from `root` on, level by level. Those of a level are the ones that the menus of the
level above open, menu by menu and entry by entry. -/
def menusByLevel (root : QMenuId) : List QMenuId :=
  Levels.upTo M.submenus [root] (M.height root + 1)

/-- The menus of some level below the root. -/
theorem mem_menusByLevel {root menu : QMenuId} :
    menu ∈ M.menusByLevel root ↔ ∃ depth, M.Opened root depth menu := by
  unfold menusByLevel Opened
  rw [Levels.mem_upTo_iff]
  constructor
  · rintro ⟨depth, _, h⟩
    exact ⟨depth, h⟩
  -- a menu is at most as deep as the root is high, so the levels up to that height have it
  · rintro ⟨depth, h⟩
    have hle := h.add_le fun _ _ => M.height_submenus
    exact ⟨depth, by omega, h⟩

/-- The walk visits the menus level by level and takes from each what qualifies. -/
theorem getAllActionsHavingShortcut_eq (menu : QMenuId) :
    Util.getAllActionsHavingShortcut M menu = (M.menusByLevel menu).flatMap M.qualifying := by
  have hempty : Levels.level M.submenus [menu] (M.height menu + 1) = [] :=
    Levels.level_eq_nil (fun _ _ => M.height_submenus) (Nat.lt_succ_self _)
  have hloop := Levels.loop_eq (Util.processMenus_nil M) (Util.processMenus_cons M) hempty []
  rw [List.nil_append] at hloop
  exact hloop

theorem mem_qualifying {action : QAction} {menu : QMenuId} :
    action ∈ M.qualifying menu ↔ action ∈ M.actions menu ∧ action.isSeparator = false ∧
      (∀ other, action.menu = some other → other = menu) ∧ action.whatsThis ≠ "" := by
  rw [qualifying, List.mem_filter, QAction.qualifies_iff]

theorem mem_submenus {menu sub : QMenuId} :
    sub ∈ M.submenus menu ↔ ∃ action ∈ M.actions menu, action.submenu menu = some sub :=
  List.mem_filterMap

end QMenus

/-- A tree of menus: below the root, an entry stands in one menu and there once, and a menu is
opened by one entry. An entry may still refer to the menu it stands in. -/
structure QMenuTree extends QMenus where
  root : QMenuId
  actions_nodup : ∀ depth menu, toQMenus.Opened root depth menu → (actions menu).Nodup
  one_menu : ∀ depth depth' menu menu' action, toQMenus.Opened root depth menu →
    toQMenus.Opened root depth' menu' → action ∈ actions menu → action ∈ actions menu' →
    menu = menu'
  one_opener : ∀ depth depth' menu menu' action action' sub, toQMenus.Opened root depth menu →
    toQMenus.Opened root depth' menu' → action ∈ actions menu → action' ∈ actions menu' →
    action.submenu menu = some sub → action'.submenu menu' = some sub → action = action'

namespace QMenuTree

/-- A menu opens no menu twice. -/
theorem nodup_submenus (T : QMenuTree) {depth : ℕ} {menu : QMenuId}
    (h : T.Opened T.root depth menu) : (T.submenus menu).Nodup := by
  refine List.pairwise_filterMap.mpr ?_
  refine (T.actions_nodup depth menu h).imp_of_mem ?_
  -- two entries that open the same menu are one entry
  intro action action' hmem hmem' hne sub hsub sub' hsub' heq
  subst heq
  exact hne (T.one_opener _ _ _ _ _ _ _ h h hmem hmem' hsub hsub')

/-- A tree of menus is a tree in the sense of the library. -/
theorem isTree (T : QMenuTree) : Levels.IsTree T.submenus T.root where
  root_notMem depth menu hopened hroot := by
    -- each menu is lower than the one it is opened from, so the root is not below itself
    have hlt := T.height_submenus hroot
    have hle := hopened.add_le fun _ _ => T.height_submenus
    omega
  nodup _ _ hopened := T.nodup_submenus hopened
  parent depth depth' menu menu' sub hmenu hmenu' hsub hsub' := by
    -- of two menus that open `sub`, the opening entries are the same, and an entry stands in one
    -- menu
    rcases T.mem_submenus.mp hsub with ⟨action, hmem, hopens⟩
    rcases T.mem_submenus.mp hsub' with ⟨action', hmem', hopens'⟩
    have hsame : action = action' :=
      T.one_opener _ _ _ _ _ _ _ hmenu hmenu' hmem hmem' hopens hopens'
    subst hsame
    exact T.one_menu _ _ _ _ _ hmenu hmenu' hmem hmem'

/-- No menu of a tree is visited twice. -/
theorem nodup_menusByLevel (T : QMenuTree) : (T.menusByLevel T.root).Nodup :=
  T.isTree.nodup_upTo _

/-- No action is in the result twice. -/
theorem nodup_getAllActionsHavingShortcut (T : QMenuTree) :
    (Util.getAllActionsHavingShortcut T.toQMenus T.root).Nodup := by
  rw [QMenus.getAllActionsHavingShortcut_eq, List.nodup_flatMap]
  constructor
  -- within a menu, and then in two menus, which share no entry
  · intro menu hmenu
    rcases (T.mem_menusByLevel).mp hmenu with ⟨depth, hopened⟩
    exact (T.actions_nodup depth menu hopened).filter _
  · refine T.nodup_menusByLevel.imp_of_mem ?_
    -- an action in both menus would be an entry that stands in two menus
    intro menu menu' hmenu hmenu' hne action haction haction'
    rcases (T.mem_menusByLevel).mp hmenu with ⟨depth, hopened⟩
    rcases (T.mem_menusByLevel).mp hmenu' with ⟨depth', hopened'⟩
    have hmem := (T.mem_qualifying.mp haction).1
    have hmem' := (T.mem_qualifying.mp haction').1
    exact hne (T.one_menu _ _ _ _ _ hopened hopened' hmem hmem')

/-- The result has the actions of all menus of the tree that are no separators, open no other
menu and have a text, each once, by the levels of their menus and within a level in the order of
the menus. -/
theorem enumerates_actions (T : QMenuTree) :
    let result := Util.getAllActionsHavingShortcut T.toQMenus T.root
    (∀ action, action ∈ result ↔ ∃ depth menu, T.Opened T.root depth menu ∧
        action ∈ T.actions menu ∧ action.isSeparator = false ∧
        (∀ other, action.menu = some other → other = menu) ∧ action.whatsThis ≠ "") ∧
      result.Nodup ∧
      result = (List.range (T.height T.root + 1)).flatMap fun depth =>
        (Levels.level T.submenus [T.root] depth).flatMap T.qualifying := by
  refine ⟨?_, T.nodup_getAllActionsHavingShortcut, ?_⟩
  · intro action
    rw [QMenus.getAllActionsHavingShortcut_eq, List.mem_flatMap]
    constructor
    · rintro ⟨menu, hmenu, haction⟩
      rcases (T.mem_menusByLevel).mp hmenu with ⟨depth, hopened⟩
      exact ⟨depth, menu, hopened, T.mem_qualifying.mp haction⟩
    · rintro ⟨depth, menu, hopened, haction⟩
      exact ⟨menu, (T.mem_menusByLevel).mpr ⟨depth, hopened⟩, T.mem_qualifying.mpr haction⟩
  · rw [QMenus.getAllActionsHavingShortcut_eq, QMenus.menusByLevel, Levels.upTo,
      List.flatMap_assoc]

/-! ## A tree of menus -/

/-- A bar with a menu that has a submenu, and with an entry that refers to the bar itself. -/
def menuBarActions : QMenuId → List QAction
  | 0 => [⟨0, "Open", "", false, none⟩, ⟨1, "Separator", "", true, none⟩,
      ⟨2, "File", "", false, some 1⟩, ⟨3, "Bar", "", false, some 0⟩]
  | 1 => [⟨4, "Recent", "", false, some 2⟩, ⟨5, "", "", false, none⟩, ⟨6, "Quit", "", false, none⟩]
  | 2 => [⟨7, "Clear", "", false, none⟩]
  | _ => []

/-- The menus of the example that entries open. -/
theorem menuBarActions_submenu {menu sub : QMenuId} {action : QAction}
    (hmem : action ∈ menuBarActions menu) (hsub : action.submenu menu = some sub) :
    (menu = 0 ∧ sub = 1 ∧ action = ⟨2, "File", "", false, some 1⟩) ∨
      (menu = 1 ∧ sub = 2 ∧ action = ⟨4, "Recent", "", false, some 2⟩) := by
  rcases QAction.submenu_eq_some_iff.mp hsub with ⟨_, hopens, hne⟩
  -- menu by menu, and of each its entries
  rcases menu with _ | _ | _ | menu
  · simp only [menuBarActions, List.mem_cons, List.not_mem_nil, or_false] at hmem
    rcases hmem with rfl | rfl | rfl | rfl
    · exact absurd hopens (by simp)
    · exact absurd hopens (by simp)
    · exact Or.inl ⟨rfl, (Option.some.inj hopens).symm, rfl⟩
    · exact absurd (Option.some.inj hopens).symm hne
  · simp only [menuBarActions, List.mem_cons, List.not_mem_nil, or_false] at hmem
    rcases hmem with rfl | rfl | rfl
    · exact Or.inr ⟨rfl, (Option.some.inj hopens).symm, rfl⟩
    · exact absurd hopens (by simp)
    · exact absurd hopens (by simp)
  · simp only [menuBarActions, List.mem_cons, List.not_mem_nil, or_false] at hmem
    subst hmem
    exact absurd hopens (by simp)
  · simp [menuBarActions] at hmem

/-- In which menu of the example an entry stands, by its number. -/
theorem menuBarActions_id {menu : QMenuId} {action : QAction}
    (hmem : action ∈ menuBarActions menu) :
    menu = if action.id ≤ 3 then 0 else if action.id ≤ 6 then 1 else 2 := by
  rcases menu with _ | _ | _ | menu
  · simp only [menuBarActions, List.mem_cons, List.not_mem_nil, or_false] at hmem
    rcases hmem with rfl | rfl | rfl | rfl <;> rfl
  · simp only [menuBarActions, List.mem_cons, List.not_mem_nil, or_false] at hmem
    rcases hmem with rfl | rfl | rfl <;> rfl
  · simp only [menuBarActions, List.mem_cons, List.not_mem_nil, or_false] at hmem
    subst hmem
    rfl
  · simp [menuBarActions] at hmem

def menuBar : QMenuTree where
  actions := menuBarActions
  height menu := 2 - menu
  height_lt := by
    intro menu action hmem sub hsub
    rcases menuBarActions_submenu hmem hsub with ⟨rfl, rfl, _⟩ | ⟨rfl, rfl, _⟩
    · exact Nat.lt_succ_self 1
    · exact Nat.one_pos
  root := 0
  actions_nodup := by
    intro _ menu _
    rcases menu with _ | _ | _ | menu
    · exact List.Nodup.of_map QAction.id (by decide)
    · exact List.Nodup.of_map QAction.id (by decide)
    · exact List.nodup_singleton _
    · exact List.nodup_nil
  one_menu := by
    intro _ _ menu menu' action _ _ hmem hmem'
    rw [menuBarActions_id hmem, menuBarActions_id hmem']
  one_opener := by
    intro _ _ menu menu' action action' sub _ _ hmem hmem' hsub hsub'
    rcases menuBarActions_submenu hmem hsub with ⟨_, rfl, rfl⟩ | ⟨_, rfl, rfl⟩
    · rcases menuBarActions_submenu hmem' hsub' with ⟨_, _, rfl⟩ | ⟨_, hne, _⟩
      · rfl
      · exact absurd hne (by decide)
    · rcases menuBarActions_submenu hmem' hsub' with ⟨_, hne, _⟩ | ⟨_, _, rfl⟩
      · exact absurd hne (by decide)
      · rfl

theorem opened_recentMenu : menuBar.Opened menuBar.root 2 2 := by
  have hfile : menuBar.Opened menuBar.root 1 1 := .child .root (by decide)
  exact .child hfile (by decide)

/-- On this tree: "Clear" of the menu two levels down is in the result, no action is there twice,
and the result is in the order of the levels. -/
theorem enumerates_actions_menuBar :
    let result := Util.getAllActionsHavingShortcut menuBar.toQMenus menuBar.root
    (⟨7, "Clear", "", false, none⟩ : QAction) ∈ result ∧ result.Nodup ∧
      result.map (·.id) = [0, 3, 6, 7] := by
  obtain ⟨hmem, hnodup, hlevels⟩ := enumerates_actions menuBar
  refine ⟨?_, hnodup, ?_⟩
  · exact (hmem _).mpr ⟨2, 2, opened_recentMenu, by decide, rfl, by simp, by decide⟩
  · rw [hlevels]
    decide

end QMenuTree

end VookiViewer
