import VookiViewer.Ui.SettingsDialog

/-!
# The preferences dialog as a transaction

An accepted dialog stores what it shows, and one that is dismissed changes nothing. The
shortcuts are edited in place, so what the second half takes is an undo, which only the
Cancel button runs. What the edits of a session make of the live shortcuts is an abstract
machine of its own; the dialog refines it.
-/

namespace VookiViewer

/-! ## The shortcuts of a session -/

/-- What an edit makes of the live shortcuts, for a table with a row for each of
`actions`. -/
def Edit.shortcuts (V : QVariant.Conversions) (p : Preferences) (actions : List QAction)
    (shortcut : Shortcuts) : Edit → Shortcuts
  | .editShortcut row keySequence =>
      match actions[row]? with
      | some action => Function.update shortcut action keySequence
      | none => shortcut
  | .restoreDefaults =>
      updates shortcut (actions.map fun action =>
        (action, V.toKeySequence (p.defaultValue action.whatsThis)))
  | _ => shortcut

/-- The shortcuts alone, edit by edit. -/
def shortcutMachine (V : QVariant.Conversions) (p : Preferences) (actions : List QAction) :
    Machine Shortcuts Edit Unit where
  step shortcut e := (e.shortcuts V p actions shortcut, ())

/-- The actions that have no row keep their shortcuts. -/
theorem shortcutMachine_frame (V : QVariant.Conversions) (p : Preferences)
    (actions : List QAction) (shortcut : Shortcuts) (edits : List Edit) {action : QAction}
    (h : action ∉ actions) :
    (shortcutMachine V p actions).exec shortcut edits action = shortcut action := by
  refine Machine.exec_invariant _ (fun s : Shortcuts => s action = shortcut action) ?_ rfl edits
  intro s e hs
  show e.shortcuts V p actions s action = shortcut action
  cases e with
  | editShortcut row keySequence =>
      cases hrow : actions[row]? with
      | none =>
          simp only [Edit.shortcuts, hrow]
          exact hs
      | some other =>
          -- the action of the edited row is another one
          have hne : action ≠ other := by
            rintro rfl
            exact h (List.mem_of_getElem? hrow)
          simp only [Edit.shortcuts, hrow]
          rw [Function.update_of_ne hne, hs]
  | restoreDefaults =>
      simp only [Edit.shortcuts]
      rw [updates_of_notMem, hs]
      simpa [List.map_map, Function.comp_def] using h
  | toggleCheckBox checkBox => exact hs
  | pickBorderColor color => exact hs
  | pickBackgroundColor color => exact hs
  | selectLanguage index => exact hs

namespace ShortcutRow

/-! ## The table -/

/-- A loop over the rows does the first row and goes on with the shortcuts it leaves. -/
theorem forEach_cons (body : ShortcutRow → Shortcuts → ShortcutRow × Shortcuts)
    (row : ShortcutRow) (rows : List ShortcutRow) (shortcut : Shortcuts) :
    forEach body (row :: rows) shortcut =
      ((body row shortcut).1 :: (forEach body rows (body row shortcut).2).1,
        (forEach body rows (body row shortcut).2).2) := rfl

/-- The loop of Restore Defaults over the rows. -/
theorem forEach_onKeySequenceChanged (value : QAction → QKeySequence) (rows : List ShortcutRow)
    (shortcut : Shortcuts) :
    forEach (fun row => row.onKeySequenceChanged (value row.m_action)) rows shortcut =
      (rows.map (fun row => { row with m_keySequence := value row.m_action }),
        updates shortcut (rows.map fun row => (row.m_action, value row.m_action))) := by
  induction rows generalizing shortcut with
  | nil => rfl
  | cons row rows ih =>
      rw [forEach_cons, ih]
      rfl

/-- A row whose shortcut is live takes the sequence its editor is given, and the shortcut
with it. -/
theorem setKeySequence_eq {row : ShortcutRow} {shortcut : Shortcuts}
    (hedit : row.keySequenceEdit = row.m_keySequence)
    (hlive : shortcut row.m_action = row.m_keySequence) (keySequence : QKeySequence) :
    row.setKeySequence keySequence shortcut =
      ({ row with m_keySequence := keySequence, keySequenceEdit := keySequence },
        Function.update shortcut row.m_action keySequence) := by
  unfold setKeySequence onKeySequenceChanged
  split
  · next hsame =>
      -- the editor is silent, and the row says so already
      rcases row with ⟨header, action, sequence, edit⟩
      dsimp only at hedit hlive hsame ⊢
      subst hsame hedit
      rw [← hlive, Function.update_eq_self]
  · rfl

/-- Drawing rows with live shortcuts again changes their editors only. -/
theorem forEach_redraw {rows : List ShortcutRow} {shortcut : Shortcuts}
    (hlive : ∀ row ∈ rows, shortcut row.m_action = row.m_keySequence) :
    forEach (fun row => row.setKeySequence row.m_keySequence) rows shortcut =
      (rows.map (fun row => { row with keySequenceEdit := row.m_keySequence }), shortcut) := by
  induction rows with
  | nil => rfl
  | cons row rows ih =>
      have hrow : row.setKeySequence row.m_keySequence shortcut =
          ({ row with keySequenceEdit := row.m_keySequence }, shortcut) := by
        have hlive' := hlive row List.mem_cons_self
        unfold setKeySequence onKeySequenceChanged
        split
        -- the sequence is the one in the editor: the signal is not sent
        · next hsame =>
            rcases row with ⟨header, action, sequence, edit⟩
            dsimp only at hsame ⊢
            rw [hsame]
        -- the slot gives the action the shortcut it has already
        · dsimp only
          rw [← hlive', Function.update_eq_self]
      rw [forEach_cons, hrow, ih (fun row' hmem => hlive row' (List.mem_cons_of_mem _ hmem))]
      rfl

/-- The entries of distinct actions are found. -/
theorem updates_live {rows : List ShortcutRow} (hnodup : (rows.map (·.m_action)).Nodup)
    (value : QAction → QKeySequence) (shortcut : Shortcuts) {row : ShortcutRow}
    (h : row ∈ rows) :
    updates shortcut (rows.map fun row => (row.m_action, value row.m_action)) row.m_action =
      value row.m_action :=
  updates_map_of_mem (fun row => row.m_action) (fun row => value row.m_action) hnodup h

/-- Both loops of Restore Defaults. -/
theorem forEach_restore {rows : List ShortcutRow} (hnodup : (rows.map (·.m_action)).Nodup)
    (value : QAction → QKeySequence) (shortcut : Shortcuts) :
    let restored :=
      forEach (fun row => row.onKeySequenceChanged (value row.m_action)) rows shortcut
    forEach (fun row => row.setKeySequence row.m_keySequence) restored.1 restored.2 =
      (rows.map (fun row =>
          { row with
            m_keySequence := value row.m_action
            keySequenceEdit := value row.m_action }),
        updates shortcut (rows.map fun row => (row.m_action, value row.m_action))) := by
  intro restored
  have hrestored : restored = _ := forEach_onKeySequenceChanged value rows shortcut
  -- the first loop makes every row live, so the second one draws the editors only
  rw [hrestored, forEach_redraw, List.map_map]
  · rfl
  · intro row hrow
    rcases List.mem_map.mp hrow with ⟨old, hold, rfl⟩
    have hlive := updates_live hnodup value shortcut hold
    exact hlive

/-- A row of the table after one row has been replaced is the new one, or is about another
action than the one that was replaced. -/
theorem mem_set_cases {rows : List ShortcutRow} (hnodup : (rows.map (·.m_action)).Nodup)
    {i : Nat} {row row' other : ShortcutRow} (hrow : rows[i]? = some row)
    (h : other ∈ rows.set i row') :
    other = row' ∨ other ∈ rows ∧ other.m_action ≠ row.m_action := by
  have hi : i < rows.length := (List.getElem?_eq_some_iff.mp hrow).1
  rcases List.mem_iff_getElem?.mp h with ⟨j, hj⟩
  rw [List.getElem?_set] at hj
  by_cases hij : i = j
  · -- the row that was replaced
    rw [if_pos hij, if_pos (hij ▸ hi)] at hj
    injection hj with hj
    exact Or.inl hj.symm
  · rw [if_neg hij] at hj
    refine Or.inr ⟨List.mem_of_getElem? hj, ?_⟩
    intro hsame
    -- two rows of one action would be the same row
    have hlt : i < (rows.map (·.m_action)).length := by
      rw [List.length_map]
      exact hi
    refine hij ((List.getElem?_inj hlt hnodup).mp ?_)
    rw [List.getElem?_map, List.getElem?_map, hrow, hj, Option.map_some, Option.map_some, hsame]

/-- Replacing a row by one of the same action keeps the actions of the table. -/
theorem map_action_set {rows : List ShortcutRow} {i : Nat} {row row' : ShortcutRow}
    (hrow : rows[i]? = some row) (haction : row'.m_action = row.m_action) :
    (rows.set i row').map (·.m_action) = rows.map (·.m_action) := by
  have hi : i < rows.length := (List.getElem?_eq_some_iff.mp hrow).1
  refine List.ext_getElem? ?_
  intro j
  rw [List.getElem?_map, List.getElem?_map, List.getElem?_set]
  by_cases hij : i = j
  · rw [if_pos hij, if_pos (hij ▸ hi), ← hij, hrow, Option.map_some, Option.map_some, haction]
  · rw [if_neg hij]

end ShortcutRow

namespace SettingsDialog

/-! ## What a widget leaves alone -/

/-- The settings, the shortcuts and the table are the same. -/
structure SameTable (d d' : SettingsDialog) : Prop where
  preferences : d'.toPreferences = d.toPreferences
  table : d'.tableShortcuts = d.tableShortcuts

theorem SameTable.trans {d d' d'' : SettingsDialog} (h : SameTable d d') (h' : SameTable d' d'') :
    SameTable d d'' :=
  ⟨h'.preferences.trans h.preferences, h'.table.trans h.table⟩

/-- A checkbox is not about the language. -/
theorem setChecked_spec (d : SettingsDialog) (checkBox : SettingsCheckBox) (checked : Bool) :
    SameTable d (d.setChecked checkBox checked) ∧
      (d.setChecked checkBox checked).comboBoxLanguageIndex = d.comboBoxLanguageIndex ∧
      (d.setChecked checkBox checked).m_languageCode = d.m_languageCode := by
  unfold setChecked
  split
  · exact ⟨⟨rfl, rfl⟩, rfl, rfl⟩
  · cases checkBox <;> exact ⟨⟨rfl, rfl⟩, rfl, rfl⟩

/-- A group of checkboxes is not about the language either. -/
theorem foldl_setChecked_spec (value : SettingsCheckBox → Bool)
    (checkBoxes : List SettingsCheckBox) (d : SettingsDialog) :
    SameTable d (checkBoxes.foldl (fun d checkBox => d.setChecked checkBox (value checkBox)) d) ∧
      (checkBoxes.foldl (fun d checkBox => d.setChecked checkBox (value checkBox))
        d).comboBoxLanguageIndex = d.comboBoxLanguageIndex := by
  induction checkBoxes generalizing d with
  | nil => exact ⟨⟨rfl, rfl⟩, rfl⟩
  | cons checkBox checkBoxes ih =>
      rcases setChecked_spec d checkBox (value checkBox) with ⟨hsame, hindex, -⟩
      rcases ih (d.setChecked checkBox (value checkBox)) with ⟨hsame', hindex'⟩
      exact ⟨hsame.trans hsame', hindex'.trans hindex⟩

/-- Choosing a language is not about the table. -/
theorem setCurrentIndex_same (d : SettingsDialog) (index : Nat) :
    SameTable d (d.setCurrentIndex index) := by
  unfold setCurrentIndex onLanguageChanged
  split
  · exact ⟨rfl, rfl⟩
  · split <;> exact ⟨rfl, rfl⟩

/-! ## The language -/

/-- The code of the language the combobox shows. -/
def shownLanguage (d : SettingsDialog) : Option String :=
  Languages.m_localizations[d.comboBoxLanguageIndex]?.map (·.m_code)

/-- The code the dialog holds is that of a translation. -/
def languageListed (d : SettingsDialog) : Bool :=
  Languages.m_localizations.any (fun record => d.m_languageCode == record.m_code)

/-- The combobox shows a language, and the one whose code the dialog holds if there is
one. -/
structure ShowsLanguage (d : SettingsDialog) : Prop where
  index_lt : d.comboBoxLanguageIndex < Languages.m_localizations.length
  shown : d.languageListed = true → d.shownLanguage = some d.m_languageCode

/-- If the combobox shows the code the dialog holds, that code is listed, and conversely. -/
theorem ShowsLanguage.shown_iff {d : SettingsDialog} (h : d.ShowsLanguage) :
    d.shownLanguage = some d.m_languageCode ↔ d.languageListed = true := by
  constructor
  · intro hshown
    rcases Option.map_eq_some_iff.mp hshown with ⟨record, hrecord, hcode⟩
    refine List.any_eq_true.mpr ⟨record, List.mem_of_getElem? hrecord, ?_⟩
    rw [hcode]
    exact beq_self_eq_true _
  · exact h.shown

/-- Only the index and the code matter. -/
theorem ShowsLanguage.congr {d d' : SettingsDialog} (h : d.ShowsLanguage)
    (hindex : d'.comboBoxLanguageIndex = d.comboBoxLanguageIndex)
    (hcode : d'.m_languageCode = d.m_languageCode) : d'.ShowsLanguage := by
  constructor
  · rw [hindex]
    exact h.index_lt
  · unfold languageListed shownLanguage
    rw [hindex, hcode]
    exact h.shown

/-- Choosing an index makes the combobox show the code the dialog holds, if it did so for
that index before. -/
theorem setCurrentIndex_shows {d : SettingsDialog} {index : Nat}
    (hlt : index < Languages.m_localizations.length)
    (hsame : d.comboBoxLanguageIndex = index → d.ShowsLanguage) :
    (d.setCurrentIndex index).ShowsLanguage := by
  unfold setCurrentIndex
  split
  -- the combobox sends no signal for the index it has
  · next heq => exact hsame heq
  -- the slot stores the code of the new index
  · have hrecord : Languages.m_localizations[index]? = some Languages.m_localizations[index] :=
      List.getElem?_eq_getElem hlt
    unfold onLanguageChanged
    rw [hrecord]
    refine ⟨hlt, ?_⟩
    intro _
    unfold shownLanguage
    simp only [hrecord, Option.map_some]

/-- `initializeUI` reads the settings into the widgets other than the table. -/
theorem initializeUI_spec (V : QVariant.Conversions) (d : SettingsDialog)
    (settings : String → QVariant)
    (hlt : d.comboBoxLanguageIndex < Languages.m_localizations.length) :
    SameTable d (d.initializeUI V settings) ∧ (d.initializeUI V settings).ShowsLanguage := by
  unfold initializeUI
  rcases foldl_setChecked_spec (fun checkBox => V.toBool (settings checkBox.whatsThis))
    SettingsCheckBox.m_settingsCheckboxes d with ⟨hsame, hindex⟩
  generalize SettingsCheckBox.m_settingsCheckboxes.foldl
    (fun d checkBox => d.setChecked checkBox (V.toBool (settings checkBox.whatsThis))) d = c
    at hsame hindex
  dsimp only
  split
  · next position hfind =>
      rcases List.findIdx?_eq_some_iff_getElem.mp hfind with ⟨hposition, hcode, -⟩
      refine ⟨⟨(setCurrentIndex_same _ _).preferences.trans hsame.preferences,
        (setCurrentIndex_same _ _).table.trans hsame.table⟩, ?_⟩
      refine setCurrentIndex_shows hposition ?_
      intro heq
      have heq' : c.comboBoxLanguageIndex = position := heq
      refine ⟨heq ▸ hposition, ?_⟩
      intro _
      unfold shownLanguage
      simp only [heq', List.getElem?_eq_getElem hposition, Option.map_some]
      rw [eq_of_beq hcode]
  · next hfind =>
      refine ⟨⟨hsame.preferences, hsame.table⟩, hindex ▸ hlt, ?_⟩
      intro hlisted
      -- the code that was not found is not listed
      rcases List.any_eq_true.mp hlisted with ⟨record, hmem, hcode⟩
      have hnot := List.findIdx?_eq_none_iff.mp hfind record hmem
      rw [hnot] at hcode
      exact absurd hcode Bool.false_ne_true

/-! ## One edit -/

/-- The settings are those of the opening, every row shows its sequence, and the shortcut
of its action is live. -/
structure InSync (p : Preferences) (actions : List QAction) (d : SettingsDialog) : Prop where
  user : d.userSettings = p.userSettings
  defaults : d.defaultSettings = p.defaultSettings
  actions : d.tableShortcuts.map (·.m_action) = actions
  edited : ∀ row ∈ d.tableShortcuts, row.keySequenceEdit = row.m_keySequence
  live : ∀ row ∈ d.tableShortcuts, d.shortcut row.m_action = row.m_keySequence

/-- Widgets other than the table keep the table in sync. -/
theorem InSync.same {p : Preferences} {actions : List QAction} {d d' : SettingsDialog}
    (h : d.InSync p actions) (hsame : SameTable d d') :
    d'.InSync p actions ∧ d'.shortcut = d.shortcut := by
  -- every field of the invariant reads the preferences or the table
  have hp := hsame.preferences
  have hshortcut : d'.shortcut = d.shortcut := congrArg Preferences.shortcut hp
  refine ⟨⟨?_, ?_, ?_, ?_, ?_⟩, hshortcut⟩
  · exact (congrArg Preferences.userSettings hp).trans h.user
  · exact (congrArg Preferences.defaultSettings hp).trans h.defaults
  · rw [hsame.table]
    exact h.actions
  · rw [hsame.table]
    exact h.edited
  · rw [hsame.table, hshortcut]
    exact h.live

/-- An edited row takes its new sequence and the shortcut of its action with it; the other
rows are about other actions. -/
theorem InSync.editShortcut {p : Preferences} {actions : List QAction} {d : SettingsDialog}
    (h : d.InSync p actions) (hnodup : actions.Nodup) (i : Nat) (keySequence : QKeySequence)
    (V : QVariant.Conversions) :
    (d.editShortcut i keySequence).InSync p actions ∧
      (d.editShortcut i keySequence).shortcut =
        (Edit.editShortcut i keySequence).shortcuts V p actions d.shortcut := by
  have hactions : actions[i]? = d.tableShortcuts[i]?.map (·.m_action) := by
    rw [← h.actions, List.getElem?_map]
  unfold SettingsDialog.editShortcut Edit.shortcuts
  cases hrow : d.tableShortcuts[i]? with
  -- there is no such row, in the table or among the actions
  | none =>
      rw [hrow] at hactions
      simp only [hactions, Option.map_none]
      exact ⟨h, trivial⟩
  | some row =>
      rw [hrow] at hactions
      have hmem : row ∈ d.tableShortcuts := List.mem_of_getElem? hrow
      have hnodup' : (d.tableShortcuts.map (·.m_action)).Nodup := by
        rw [h.actions]
        exact hnodup
      simp only [hactions, Option.map_some,
        ShortcutRow.setKeySequence_eq (h.edited row hmem) (h.live row hmem)]
      refine ⟨⟨h.user, h.defaults, ?_, ?_, ?_⟩, trivial⟩
      · refine (ShortcutRow.map_action_set hrow ?_).trans h.actions
        rfl
      · intro other hother
        rcases ShortcutRow.mem_set_cases hnodup' hrow hother with rfl | ⟨hmem', -⟩
        · rfl
        · exact h.edited other hmem'
      · intro other hother
        -- the edited row has its new shortcut, and no other row has its action
        rcases ShortcutRow.mem_set_cases hnodup' hrow hother with rfl | ⟨hmem', hne⟩
        · exact Function.update_self _ _ _
        · exact (Function.update_of_ne hne _ _).trans (h.live other hmem')

/-- Restore Defaults gives every row, its editor and its action the default sequence. -/
theorem InSync.restoreDefaults {p : Preferences} {actions : List QAction} {d : SettingsDialog}
    (h : d.InSync p actions) (hnodup : actions.Nodup) (V : QVariant.Conversions)
    (hlanguage : d.ShowsLanguage) :
    (d.onRestoreDefaultsTriggered V).InSync p actions ∧
      (d.onRestoreDefaultsTriggered V).shortcut =
        Edit.restoreDefaults.shortcuts V p actions d.shortcut ∧
      (d.onRestoreDefaultsTriggered V).ShowsLanguage := by
  rcases initializeUI_spec V d d.defaultValue hlanguage.index_lt with ⟨hsame, hshows⟩
  rcases h.same hsame with ⟨hc, hshortcut⟩
  unfold onRestoreDefaultsTriggered Edit.shortcuts
  generalize d.initializeUI V d.defaultValue = c at hc hshortcut hshows
  -- the defaults are read after `initializeUI`, which does not write them
  have hvalue : c.defaultValue = p.defaultValue := by
    funext key
    unfold Preferences.defaultValue
    rw [hc.defaults]
  have hnodup' : (c.tableShortcuts.map (·.m_action)).Nodup := by
    rw [hc.actions]
    exact hnodup
  have hentries : (c.tableShortcuts.map fun row =>
      (row.m_action, V.toKeySequence (p.defaultValue row.m_action.whatsThis))) =
        actions.map fun action =>
          (action, V.toKeySequence (p.defaultValue action.whatsThis)) := by
    rw [← hc.actions, List.map_map]
    rfl
  dsimp only
  rw [hvalue, ShortcutRow.forEach_restore hnodup'
    (fun action => V.toKeySequence (p.defaultValue action.whatsThis)) c.shortcut]
  refine ⟨⟨hc.user, hc.defaults, ?_, ?_, ?_⟩, ?_, hshows.congr rfl rfl⟩
  · rw [List.map_map]
    exact hc.actions
  · intro row hrow
    rcases List.mem_map.mp hrow with ⟨old, hold, rfl⟩
    rfl
  · intro row hrow
    rcases List.mem_map.mp hrow with ⟨old, hold, rfl⟩
    have hlive := ShortcutRow.updates_live hnodup'
      (fun action => V.toKeySequence (p.defaultValue action.whatsThis)) c.shortcut hold
    exact hlive
  · rw [hentries, hshortcut]

/-- The dialog agrees with the shortcuts alone. -/
structure Refines (p : Preferences) (actions : List QAction) (d : SettingsDialog)
    (shortcut : Shortcuts) : Prop where
  sync : d.InSync p actions
  language : d.ShowsLanguage
  shortcut : d.shortcut = shortcut

/-- One edit: the dialog goes where the shortcuts alone go. -/
theorem Refines.edit {p : Preferences} {actions : List QAction} {d : SettingsDialog}
    {shortcut : Shortcuts} (h : d.Refines p actions shortcut) (hnodup : actions.Nodup)
    (V : QVariant.Conversions) (e : Edit) :
    (d.edit V e).Refines p actions (e.shortcuts V p actions shortcut) := by
  rcases h with ⟨hsync, hlanguage, rfl⟩
  -- what is left alone is still in sync
  have hsame : ∀ d', SameTable d d' → d'.ShowsLanguage → d'.Refines p actions d.shortcut := by
    intro d' hsame hlanguage'
    rcases hsync.same hsame with ⟨hsync', hshortcut⟩
    exact ⟨hsync', hlanguage', hshortcut⟩
  cases e with
  | toggleCheckBox checkBox =>
      rcases setChecked_spec d checkBox (!d.isChecked checkBox) with ⟨htable, hindex, hcode⟩
      exact hsame _ htable (hlanguage.congr hindex hcode)
  | pickBorderColor color =>
      simp only [SettingsDialog.edit, onToolButtonBorderColorClicked]
      split
      · split
        · exact hsame _ ⟨rfl, rfl⟩ (hlanguage.congr rfl rfl)
        · exact hsame _ ⟨rfl, rfl⟩ hlanguage
      · exact hsame _ ⟨rfl, rfl⟩ hlanguage
  | pickBackgroundColor color =>
      simp only [SettingsDialog.edit, onToolButtonBackgroundColorClicked]
      split
      · exact hsame _ ⟨rfl, rfl⟩ (hlanguage.congr rfl rfl)
      · exact hsame _ ⟨rfl, rfl⟩ hlanguage
  | selectLanguage index =>
      simp only [SettingsDialog.edit]
      split
      · next hselect =>
          exact hsame _ (setCurrentIndex_same d index)
            (setCurrentIndex_shows hselect.2 (fun _ => hlanguage))
      · exact hsame _ ⟨rfl, rfl⟩ hlanguage
  | editShortcut row keySequence =>
      rcases hsync.editShortcut hnodup row keySequence V with ⟨hsync', hshortcut⟩
      refine ⟨hsync', ?_, hshortcut⟩
      simp only [SettingsDialog.edit, SettingsDialog.editShortcut]
      split
      · exact hlanguage
      · exact hlanguage.congr rfl rfl
  | restoreDefaults =>
      rcases hsync.restoreDefaults hnodup V hlanguage with ⟨hsync', hshortcut, hlanguage'⟩
      exact ⟨hsync', hlanguage', hshortcut⟩

/-- The dialog, as far as the shortcuts go, is the machine of the shortcuts alone. -/
theorem machine_simulates (V : QVariant.Conversions) (p : Preferences) {actions : List QAction}
    (hnodup : actions.Nodup) :
    Machine.Simulates (machine V) (shortcutMachine V p actions) (fun _ _ => True)
      (Refines p actions) := by
  constructor
  · intro d shortcut e _ h
    exact h.edit hnodup V e
  · intro d shortcut e _ h
    rfl

/-! ## Opening -/

/-- The actions that have a row. -/
def actionsOf (M : QMenus) (menus : List QMenuId) : List QAction :=
  menus.flatMap (Util.getAllActionsHavingShortcut M)

/-- A new dialog has no rows, and the combobox shows the language of the settings. -/
theorem new_refines (V : QVariant.Conversions) (p : Preferences) :
    (new V p).Refines p [] p.shortcut := by
  have hlt : 0 < Languages.m_localizations.length := by decide
  rcases initializeUI_spec V (setupUi p) p.userValue hlt with ⟨hsame, hlanguage⟩
  have hsync : (setupUi p).InSync p [] :=
    ⟨rfl, rfl, rfl, fun _ hrow => absurd hrow List.not_mem_nil,
      fun _ hrow => absurd hrow List.not_mem_nil⟩
  rcases hsync.same hsame with ⟨hsync', hshortcut⟩
  exact ⟨hsync', hlanguage, hshortcut⟩

/-- Rows that are added show the live shortcuts. -/
theorem Refines.populateShortcuts {p : Preferences} {actions : List QAction}
    {d : SettingsDialog} {shortcut : Shortcuts} (h : d.Refines p actions shortcut) (M : QMenus)
    (menu : QMenuId) :
    (d.populateShortcuts M menu).Refines p
      (actions ++ Util.getAllActionsHavingShortcut M menu) shortcut := by
  refine ⟨⟨h.sync.user, h.sync.defaults, ?_, ?_, ?_⟩, h.language.congr rfl rfl, h.shortcut⟩
  · show (d.tableShortcuts ++ _).map _ = _
    rw [List.map_append, h.sync.actions, List.map_map]
    congr 1
    exact List.map_id _
  · intro row hrow
    rcases List.mem_append.mp hrow with hold | hnew
    · exact h.sync.edited row hold
    · rcases List.mem_map.mp hnew with ⟨action, -, rfl⟩
      rfl
  · intro row hrow
    rcases List.mem_append.mp hrow with hold | hnew
    · exact h.sync.live row hold
    · rcases List.mem_map.mp hnew with ⟨action, -, rfl⟩
      rfl

/-- An open dialog has one row for each action with a shortcut. -/
theorem opened_refines (V : QVariant.Conversions) (M : QMenus) (menus : List QMenuId)
    (p : Preferences) : (opened V M menus p).Refines p (actionsOf M menus) p.shortcut := by
  -- induction on the menus, for any rows that are there already
  have hfold : ∀ (menus : List QMenuId) (d : SettingsDialog) (actions : List QAction),
      d.Refines p actions p.shortcut →
        (menus.foldl (fun d menu => d.populateShortcuts M menu) d).Refines p
          (actions ++ actionsOf M menus) p.shortcut := by
    intro menus
    induction menus with
    | nil =>
        intro d actions h
        rw [actionsOf, List.flatMap_nil, List.append_nil]
        exact h
    | cons menu menus ih =>
        intro d actions h
        rw [actionsOf, List.flatMap_cons, ← List.append_assoc]
        exact ih _ _ (h.populateShortcuts M menu)
  exact hfold menus (new V p) [] (new_refines V p)

/-- The dialog after a session of edits. -/
def afterEdits (V : QVariant.Conversions) (M : QMenus) (menus : List QMenuId) (p : Preferences)
    (edits : List Edit) : SettingsDialog :=
  (machine V).exec (opened V M menus p) edits

/-- The shortcuts a session of edits gives the actions. -/
def editedShortcuts (V : QVariant.Conversions) (M : QMenus) (menus : List QMenuId)
    (p : Preferences) (edits : List Edit) : Shortcuts :=
  (shortcutMachine V p (actionsOf M menus)).exec p.shortcut edits

/-- All edits of a session. -/
theorem afterEdits_refines (V : QVariant.Conversions) (M : QMenus) (menus : List QMenuId)
    (p : Preferences) (edits : List Edit) (hnodup : (actionsOf M menus).Nodup) :
    (afterEdits V M menus p edits).Refines p (actionsOf M menus)
      (editedShortcuts V M menus p edits) :=
  (machine_simulates V p hnodup).exec (opened_refines V M menus p)
    (Machine.along_of_forall _ (fun _ _ => trivial) _ _)

/-! ## Dismissal -/

/-- The keys of the widgets other than the table. -/
def widgetKeys : List String :=
  SettingsCheckBox.m_settingsCheckboxes.map (·.whatsThis) ++
    [settingsImageBorderColor, settingsImageBackgroundColor, settingsLanguageCode]

/-- What an accepted dialog writes for these widgets. -/
def widgetEntries (d : SettingsDialog) : List (String × Option QVariant) :=
  SettingsCheckBox.m_settingsCheckboxes.map
      (fun checkBox => (checkBox.whatsThis, some (.bool (d.isChecked checkBox)))) ++
    [(settingsImageBorderColor, some (.color d.m_borderColor)),
      (settingsImageBackgroundColor, some (.color d.m_backgroundColor)),
      (settingsLanguageCode, some (.string d.m_languageCode))]

/-- What it writes for the table. -/
def shortcutEntries (d : SettingsDialog) : List (String × Option QVariant) :=
  d.tableShortcuts.map fun row => (row.m_action.whatsThis, some (.keySequence row.m_keySequence))

theorem widgetKeys_nodup : widgetKeys.Nodup := by decide

theorem widgetEntries_keys (d : SettingsDialog) : d.widgetEntries.map Prod.fst = widgetKeys := by
  unfold widgetEntries widgetKeys
  rw [List.map_append, List.map_map]
  rfl

theorem onAccept_userSettings (d : SettingsDialog) :
    d.onAccept.userSettings = updates d.userSettings (d.widgetEntries ++ d.shortcutEntries) := by
  unfold onAccept widgetEntries shortcutEntries updates QSettings.setValue
  simp only [List.foldl_append, List.foldl_map, List.foldl_cons, List.foldl_nil]

/-- The settings hold what an accepted dialog showed last, and the shortcuts are those of
the settings. -/
structure Committed (V : QVariant.Conversions) (d : SettingsDialog) (after : Preferences) :
    Prop where
  checkBoxes : ∀ checkBox : SettingsCheckBox,
    after.userSettings checkBox.whatsThis = some (.bool (d.isChecked checkBox))
  borderColor : after.userSettings settingsImageBorderColor = some (.color d.m_borderColor)
  backgroundColor :
    after.userSettings settingsImageBackgroundColor = some (.color d.m_backgroundColor)
  language : ∃ code, d.shownLanguage = some code ∧
    after.userSettings settingsLanguageCode = some (.string code)
  shortcuts : ∀ row ∈ d.tableShortcuts,
    after.userSettings row.m_action.whatsThis = some (.keySequence row.keySequenceEdit)
  live : ∀ row ∈ d.tableShortcuts,
    after.shortcut row.m_action = V.toKeySequence (after.userValue row.m_action.whatsThis)

/-- What a transaction leaves: all that was shown, or nothing at all. -/
def IsTransaction (V : QVariant.Conversions) (before : Preferences) (d : SettingsDialog) :
    Dismissal → Prop
  | .ok => Committed V d (d.dismiss V .ok)
  | dismissal => d.dismiss V dismissal = before

section Accept

variable {V : QVariant.Conversions} {p : Preferences} {actions : List QAction}
  {d : SettingsDialog} {shortcut : Shortcuts}

/-- The table writes under the keys of its actions. -/
theorem shortcutEntries_keys (h : d.Refines p actions shortcut) :
    d.shortcutEntries.map Prod.fst = actions.map (·.whatsThis) := by
  rw [← h.sync.actions]
  unfold shortcutEntries
  rw [List.map_map, List.map_map]
  rfl

/-- The key of a row has the sequence of the row, whatever else has that key. -/
theorem onAccept_shortcut (h : d.Refines p actions shortcut)
    (hkeys : (actions.map (·.whatsThis)).Nodup) {row : ShortcutRow}
    (hrow : row ∈ d.tableShortcuts) :
    d.onAccept.userSettings row.m_action.whatsThis = some (.keySequence row.m_keySequence) := by
  have hkeys' : (d.shortcutEntries.map Prod.fst).Nodup := by
    rw [shortcutEntries_keys h]
    exact hkeys
  rw [onAccept_userSettings]
  exact updates_append_of_mem hkeys' (List.mem_map_of_mem hrow)

/-- The keys of the widgets have the values of the widgets if no action shares them. -/
theorem onAccept_widget (h : d.Refines p actions shortcut)
    (hclash : ∀ action ∈ actions, action.whatsThis ∉ widgetKeys)
    {entry : String × Option QVariant} (hentry : entry ∈ d.widgetEntries) :
    d.onAccept.userSettings entry.1 = entry.2 := by
  have hmem : entry.1 ∈ widgetKeys := by
    rw [← widgetEntries_keys d]
    exact List.mem_map_of_mem hentry
  -- the rows are written last, under other keys
  have hnot : entry.1 ∉ d.shortcutEntries.map Prod.fst := by
    rw [shortcutEntries_keys h]
    intro hin
    rcases List.mem_map.mp hin with ⟨action, haction, hkey⟩
    exact hclash action haction (hkey ▸ hmem)
  have hnodup : (d.widgetEntries.map Prod.fst).Nodup := by
    rw [widgetEntries_keys]
    exact widgetKeys_nodup
  rw [onAccept_userSettings, updates_append, updates_of_notMem hnot]
  exact updates_of_mem hnodup hentry

/-- The language key has the code the dialog holds. -/
theorem onAccept_language (h : d.Refines p actions shortcut)
    (hclash : ∀ action ∈ actions, action.whatsThis ∉ widgetKeys) :
    d.onAccept.userSettings settingsLanguageCode = some (.string d.m_languageCode) :=
  onAccept_widget h hclash (List.mem_append_right _
    (List.mem_cons_of_mem _ (List.mem_cons_of_mem _ List.mem_cons_self)))

/-- An action that shares a key with a widget overwrites what the widget stored. -/
theorem Committed.no_clash (h : d.Refines p actions shortcut)
    (hcommitted : Committed V d d.onAccept) :
    ∀ action ∈ actions, action.whatsThis ∉ widgetKeys := by
  intro action haction hclash
  rw [← h.sync.actions] at haction
  rcases List.mem_map.mp haction with ⟨row, hrow, rfl⟩
  -- the row's value is a key sequence, the widget's is of another type
  have hstored := hcommitted.shortcuts row hrow
  rcases List.mem_append.mp hclash with hbox | hother
  · rcases List.mem_map.mp hbox with ⟨checkBox, -, hkey⟩
    rw [← hkey, hcommitted.checkBoxes checkBox] at hstored
    simp at hstored
  · simp only [List.mem_cons, List.not_mem_nil, or_false] at hother
    rcases hother with hkey | hkey | hkey
    · rw [hkey, hcommitted.borderColor] at hstored
      simp at hstored
    · rw [hkey, hcommitted.backgroundColor] at hstored
      simp at hstored
    · rcases hcommitted.language with ⟨code, -, hcode⟩
      rw [hkey, hcode] at hstored
      simp at hstored

/-- An accepted dialog stores what it shows exactly if no action has the key of a widget and
the dialog holds the code of a translation. -/
theorem onAccept_iff (h : d.Refines p actions shortcut)
    (hkeys : (actions.map (·.whatsThis)).Nodup) :
    Committed V d d.onAccept ↔
      (∀ action ∈ actions, action.whatsThis ∉ widgetKeys) ∧ d.languageListed = true := by
  constructor
  · intro hcommitted
    -- a shortcut written after a widget would have replaced its value
    have hclash := hcommitted.no_clash h
    refine ⟨hclash, ?_⟩
    rcases hcommitted.language with ⟨code, hshown, hstored⟩
    rw [onAccept_language h hclash] at hstored
    injection hstored with hstored
    injection hstored with hsame
    -- what is shown is what was stored, the code the dialog holds
    rw [← hsame] at hshown
    exact h.language.shown_iff.mp hshown
  · rintro ⟨hclash, hlisted⟩
    refine ⟨?_, ?_, ?_, ?_, ?_, ?_⟩
    · intro checkBox
      have hentry : (checkBox.whatsThis, some (QVariant.bool (d.isChecked checkBox))) ∈
          d.widgetEntries :=
        List.mem_append_left _
          (List.mem_map.mpr ⟨checkBox, checkBox.mem_settingsCheckboxes, rfl⟩)
      exact onAccept_widget h hclash hentry
    · exact onAccept_widget h hclash
        (List.mem_append_right _ List.mem_cons_self)
    · exact onAccept_widget h hclash
        (List.mem_append_right _ (List.mem_cons_of_mem _ List.mem_cons_self))
    -- the only field that needs a listed code
    · exact ⟨d.m_languageCode, h.language.shown hlisted, onAccept_language h hclash⟩
    · intro row hrow
      rw [h.sync.edited row hrow]
      exact onAccept_shortcut h hkeys hrow
    · intro row hrow
      -- the sequence read back is the one of the row, and the row is live
      rw [Preferences.userValue_of_some (onAccept_shortcut h hkeys hrow),
        V.toKeySequence_keySequence]
      exact h.sync.live row hrow

end Accept

/-- Cancel gives every action of the table the shortcut of the user settings, which was its
own, and the other actions have kept theirs. -/
theorem onRejected_eq {V : QVariant.Conversions} {p : Preferences} {actions : List QAction}
    {d : SettingsDialog} {edits : List Edit}
    (h : d.Refines p actions ((shortcutMachine V p actions).exec p.shortcut edits))
    (hopen : ∀ action ∈ actions,
      p.shortcut action = V.toKeySequence (p.userValue action.whatsThis)) :
    d.onRejected V = p := by
  have hvalue : d.userValue = p.userValue := by
    funext key
    unfold Preferences.userValue Preferences.defaultValue
    rw [h.sync.user, h.sync.defaults]
  have hshortcut : (d.onRejected V).shortcut = updates d.shortcut
      (actions.map fun action => (action, V.toKeySequence (p.userValue action.whatsThis))) := by
    unfold onRejected updates
    rw [← h.sync.actions, hvalue, List.map_map, List.foldl_map]
    rfl
  -- the undo reaches all that the edits could reach
  have hrestored : (d.onRejected V).shortcut = p.shortcut := by
    rw [hshortcut]
    refine updates_eq_of_agree ?_ ?_
    · intro action hnot
      rw [h.shortcut]
      refine shortcutMachine_frame V p actions p.shortcut edits ?_
      simpa [List.map_map, Function.comp_def] using hnot
    · intro entry hentry
      rcases List.mem_map.mp hentry with ⟨action, haction, rfl⟩
      exact hopen action haction
  exact Preferences.ext h.sync.defaults h.sync.user hrestored

/-- Without Cancel the edits stay: nothing has changed if they left every shortcut of the
table as it was. -/
theorem toPreferences_eq_iff {V : QVariant.Conversions} {p : Preferences}
    {actions : List QAction} {d : SettingsDialog} {edits : List Edit}
    (h : d.Refines p actions ((shortcutMachine V p actions).exec p.shortcut edits)) :
    d.toPreferences = p ↔
      ∀ action ∈ actions,
        (shortcutMachine V p actions).exec p.shortcut edits action = p.shortcut action := by
  constructor
  · intro hsame action _
    rw [← h.shortcut, hsame]
  · intro hedited
    -- no edit writes to the settings, so only the shortcuts can differ
    refine Preferences.ext h.sync.defaults h.sync.user ?_
    rw [h.shortcut]
    funext action
    by_cases haction : action ∈ actions
    · exact hedited action haction
    -- an action without a row keeps its shortcut
    · exact shortcutMachine_frame V p actions p.shortcut edits haction

/-- When a session of edits and its dismissal are a transaction. -/
def DismissedSoundly (V : QVariant.Conversions) (M : QMenus) (menus : List QMenuId)
    (p : Preferences) (edits : List Edit) : Dismissal → Prop
  | .ok =>
      (∀ action ∈ actionsOf M menus, action.whatsThis ∉ widgetKeys) ∧
        (afterEdits V M menus p edits).languageListed = true
  | .cancel => True
  | .escape | .close =>
      ∀ action ∈ actionsOf M menus, editedShortcuts V M menus p edits action = p.shortcut action

/-- The preferences dialog is a transaction exactly if an accepted one holds the code of a
translation and has no action with the key of a widget, and one that is left by the Escape
key or closed has edited no shortcut, or edited it back. -/
theorem transaction_iff (V : QVariant.Conversions) (M : QMenus) (menus : List QMenuId)
    (before : Preferences)
    (hkeys : ((actionsOf M menus).map (·.whatsThis)).Nodup)
    (hopen : ∀ action ∈ actionsOf M menus,
      before.shortcut action = V.toKeySequence (before.userValue action.whatsThis))
    (edits : List Edit) (dismissal : Dismissal) :
    IsTransaction V before (afterEdits V M menus before edits) dismissal ↔
      DismissedSoundly V M menus before edits dismissal := by
  -- after the edits the dialog still agrees with the shortcuts, and each way out is a fact of its
  -- own
  have h := afterEdits_refines V M menus before edits hkeys.of_map
  cases dismissal with
  | ok => exact onAccept_iff h hkeys
  | cancel =>
      constructor
      · intro _
        trivial
      · intro _
        -- Cancel gives every action the shortcut of the settings
        exact onRejected_eq h hopen
  | escape => exact toPreferences_eq_iff h
  | close => exact toPreferences_eq_iff h

/-! ## A session -/

namespace Example

/-- The sequence of one key. -/
def key (code : Nat) : QKeySequence where
  keys := [code]
  length_le := by simp

/-- The action that switches to fullscreen, in a menu of its own. -/
def actionFullScreen : QAction where
  id := 0
  whatsThis := "viv/shortcut/view/fullscreen"
  toolTip := "FullScreen"
  isSeparator := false
  menu := none

def menuView : QMenus where
  actions menu := if menu = 0 then [actionFullScreen] else []
  height _ := 0
  height_lt := by
    intro menu action haction sub hsub
    split at haction
    · rw [List.mem_singleton.mp haction] at hsub
      simp [QAction.submenu, actionFullScreen] at hsub
    · exact absurd haction List.not_mem_nil

theorem actionsOf_menuView : actionsOf menuView [0] = [actionFullScreen] := by
  decide +kernel

/-- The user has changed the shortcut once. -/
def preferences : Preferences where
  defaultSettings := Function.update (fun _ => none) settingsLanguageCode (some (.string "en_US"))
  userSettings := Function.update (fun _ => none) actionFullScreen.whatsThis
    (some (.keySequence (key 70)))
  shortcut _ := key 70

end Example

/-- An accepted session: the shortcut is edited and the language changed. -/
theorem transaction_iff_accepted :
    IsTransaction QVariant.strict Example.preferences
      (afterEdits QVariant.strict Example.menuView [0] Example.preferences
        [.editShortcut 0 (Example.key 71), .toggleCheckBox .checkBoxImageDrawBorder,
          .selectLanguage 3]) .ok := by
  have hactions := Example.actionsOf_menuView
  refine (transaction_iff QVariant.strict Example.menuView [0] Example.preferences ?_ ?_ _
    .ok).mpr ⟨?_, ?_⟩
  · rw [hactions]
    decide
  · rw [hactions]
    intro action haction
    rw [List.mem_singleton.mp haction]
    rfl
  · rw [hactions]
    decide
  · decide +kernel

/-- An edited shortcut is still there after the Escape key. -/
theorem escape_keeps_edits :
    ((actionsOf Example.menuView [0]).map (·.whatsThis)).Nodup ∧
      (∀ action ∈ actionsOf Example.menuView [0], Example.preferences.shortcut action =
        QVariant.strict.toKeySequence (Example.preferences.userValue action.whatsThis)) ∧
      ¬ IsTransaction QVariant.strict Example.preferences
        (afterEdits QVariant.strict Example.menuView [0] Example.preferences
          [.editShortcut 0 (Example.key 71)]) .escape := by
  have hactions := Example.actionsOf_menuView
  refine ⟨?_, ?_, ?_⟩
  · rw [hactions]
    decide
  · rw [hactions]
    intro action haction
    rw [List.mem_singleton.mp haction]
    rfl
  · intro hsame
    -- if nothing had changed, neither would this shortcut
    have hshortcut := congrArg (fun p : Preferences => p.shortcut Example.actionFullScreen) hsame
    revert hshortcut
    decide +kernel

end SettingsDialog

end VookiViewer
