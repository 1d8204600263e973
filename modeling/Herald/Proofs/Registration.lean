import Herald.Action.Table
import Mathlib.Data.List.Induction
import Mathlib.Data.List.Nodup

/-!
# What a table of commands holds

A table keeps three things by hand: the actions by name, the order of the names, and the text of the
help. Here they are compared with the `history` of the table, all the actions that have been registered
in it one after another (`Registered`):

* `find?_put`: registering an action changes what its own name stands for, and no other name.
* `Kept` is the invariant of the three, and `Kept.register` its step.
* `resolution_of_registered`: a name stands for the action registered last under it, and any other
  name for the built-in help.
* `listing_of_registered`: names and help text list the names in the order of their first
  registration, with what they stand for now.
-/

namespace Herald.CommandTable

/-- A table that has been empty at first or has had the built-in actions, and all the actions that have
been registered in it. -/
inductive Registered : CommandTable → List Action → Prop where
  | empty : Registered .empty []
  | builtIn : Registered .builtIn [Action.ojichat, Action.stats, Action.version]
  | register {table : CommandTable} {history : List Action} (h : Registered table history)
      (action : Action) : Registered (table.register action) (history ++ [action])

/-- Whether some action has been registered under a name. -/
def IsTaken (history : List Action) (name : String) : Prop :=
  ∃ action ∈ history, action.name = name

/-- The action that has been registered last under a name. -/
def last? (history : List Action) (name : String) : Option Action :=
  history.reverse.find? (·.name = name)

/-- The names but that of the help, each where it was first registered. -/
def firstNames (history : List Action) : List String :=
  (history.map (·.name)).eraseDups.filter (· ≠ helpName)

/-! ## The history -/

theorem last?_concat (history : List Action) (action : Action) (name : String) :
    last? (history ++ [action]) name =
      if action.name = name then some action else last? history name := by
  rw [last?, List.reverse_concat, List.find?_cons]
  by_cases h : action.name = name <;> simp [h, last?]

theorem last?_eq_none_iff {history : List Action} {name : String} :
    last? history name = none ↔ ¬ IsTaken history name := by
  simp [last?, IsTaken]

theorem eraseDups_concat (names : List String) (name : String) :
    (names ++ [name]).eraseDups =
      if name ∈ names then names.eraseDups else names.eraseDups ++ [name] := by
  rw [List.eraseDups_append]
  by_cases h : name ∈ names
  · have hnone : [name].removeAll names = [] := by simp [List.removeAll, h]
    rw [hnone, if_pos h]
    exact List.append_nil _
  · have hone : [name].removeAll names = [name] := by simp [List.removeAll, h]
    rw [hone, if_neg h, List.eraseDups_cons]
    rfl

/-- Without its repetitions, a row has its items in the order of their first places. -/
theorem pairwise_eraseDups (names : List String) :
    names.eraseDups.Pairwise fun a b => names.idxOf a < names.idxOf b := by
  induction names using List.reverseRecOn with
  | nil => exact List.Pairwise.nil
  | append_singleton names name ih =>
    have hkeep : ∀ a ∈ names.eraseDups, (names ++ [name]).idxOf a = names.idxOf a := by
      intro a ha
      exact List.idxOf_append_of_mem (List.mem_eraseDups.mp ha)
    have hfront : names.eraseDups.Pairwise
        fun a b => (names ++ [name]).idxOf a < (names ++ [name]).idxOf b := by
      refine ih.imp_of_mem ?_
      intro a b ha hb hlt
      rw [hkeep a ha, hkeep b hb]
      exact hlt
    rw [eraseDups_concat]
    split
    · exact hfront
    · next hnew =>
      -- a new name comes behind all that have been there
      rw [List.pairwise_append]
      refine ⟨hfront, List.pairwise_singleton _ _, ?_⟩
      intro a ha b hb
      rw [List.mem_singleton.mp hb, hkeep a ha, List.idxOf_append_of_notMem hnew]
      have hlt : names.idxOf a < names.length :=
        List.idxOf_lt_length_of_mem (List.mem_eraseDups.mp ha)
      omega

theorem mem_firstNames {history : List Action} {name : String} :
    name ∈ firstNames history ↔ name ≠ helpName ∧ IsTaken history name := by
  rw [firstNames, List.mem_filter, List.mem_eraseDups, List.mem_map, decide_eq_true_eq, And.comm]
  rfl

/-- The names of the listing are in the order of their first registrations. -/
theorem firstNames_ordered (history : List Action) :
    (firstNames history).Pairwise fun a b =>
      (history.map (·.name)).idxOf a < (history.map (·.name)).idxOf b :=
  (pairwise_eraseDups _).filter _

theorem firstNames_nodup (history : List Action) : (firstNames history).Nodup := by
  refine (firstNames_ordered history).imp ?_
  rintro a _ hlt rfl
  exact Nat.lt_irrefl _ hlt

/-- A name that is registered once more keeps its place. -/
theorem firstNames_concat_of_taken {history : List Action} {action : Action}
    (h : IsTaken history action.name) :
    firstNames (history ++ [action]) = firstNames history := by
  have hmem : action.name ∈ history.map (·.name) := List.mem_map.mpr h
  rw [firstNames, List.map_append, List.map_singleton, eraseDups_concat, if_pos hmem]
  rfl

/-- A help that is registered is not listed. -/
theorem firstNames_concat_of_help {history : List Action} {action : Action}
    (h : action.name = helpName) : firstNames (history ++ [action]) = firstNames history := by
  rw [firstNames, List.map_append, List.map_singleton, eraseDups_concat, h]
  split
  · rfl
  · rw [List.filter_append]
    exact List.append_nil _

/-! ## The invariant -/

/-- The action that is put in is found under its name, and all others as before. -/
theorem find?_put (action : Action) (actions : List Action) (name : String) :
    (put action actions).find? (·.name = name) =
      if action.name = name then some action else actions.find? (·.name = name) := by
  by_cases hany : actions.any (·.name = action.name) = true
  · -- an action is replaced by one of the same name, so the place in which `name` is found stays
    have hsame : ((fun a => decide (a.name = name)) ∘
        fun a : Action => if a.name = action.name then action else a) =
        fun a => decide (a.name = name) := by
      funext a
      by_cases ha : a.name = action.name <;> simp [ha]
    rw [put, if_pos hany, List.find?_map, hsame]
    cases hfind : actions.find? (fun a => decide (a.name = name)) with
    | none =>
      have hne : action.name ≠ name := by
        rintro rfl
        obtain ⟨a, ha, hname⟩ := List.any_eq_true.mp hany
        exact List.find?_eq_none.mp hfind a ha hname
      rw [if_neg hne]
      rfl
    | some found =>
      have hfound : found.name = name := by simpa using List.find?_some hfind
      rw [Option.map_some, hfound]
      by_cases hname : action.name = name
      · rw [if_pos hname, if_pos hname.symm]
      · rw [if_neg hname, if_neg (Ne.symm hname)]
  · have hnone : ∀ a ∈ actions, a.name ≠ action.name := by simpa using hany
    rw [put, if_neg hany, List.find?_append]
    by_cases hname : action.name = name
    · subst hname
      have hfind : actions.find? (fun a => decide (a.name = action.name)) = none := by
        simpa using hnone
      simp [hfind]
    · simp [hname]

/-- What a table holds by its history. -/
structure Kept (table : CommandTable) (history : List Action) : Prop where
  find?_eq : ∀ name, table.find? name = last? history name
  order_eq : table.order = (history.map (·.name)).eraseDups
  helpText_eq : table.helpText = listing table.listed

theorem kept_empty : Kept .empty [] where
  find?_eq _ := rfl
  order_eq := rfl
  helpText_eq := rfl

/-- An action is registered. -/
theorem Kept.register {table : CommandTable} {history : List Action} (h : Kept table history)
    (action : Action) : Kept (table.register action) (history ++ [action]) := by
  refine ⟨?_, ?_, rfl⟩
  · intro name
    show (put action table.actions).find? (·.name = name) = _
    rw [find?_put, last?_concat, ← h.find?_eq]
    rfl
  · show (if (table.find? action.name).isNone then _ else _) = _
    rw [List.map_append, List.map_singleton, eraseDups_concat, ← h.order_eq, h.find?_eq]
    by_cases htaken : IsTaken history action.name
    · have hmem : action.name ∈ history.map (·.name) := List.mem_map.mpr htaken
      have hsome : (last? history action.name).isNone = false := by
        rw [← Bool.not_eq_true, Option.isNone_iff_eq_none, last?_eq_none_iff, not_not]
        exact htaken
      simp [hsome, hmem]
    · have hmem : action.name ∉ history.map (·.name) := fun hm => htaken (List.mem_map.mp hm)
      rw [last?_eq_none_iff.mpr htaken, if_neg hmem]
      rfl

/-- Every table keeps to its history. -/
theorem kept_of_registered {table : CommandTable} {history : List Action}
    (h : Registered table history) : Kept table history := by
  induction h with
  | empty => exact kept_empty
  | builtIn =>
    exact ((kept_empty.register Action.ojichat).register Action.stats).register Action.version
  | register _ action ih => exact ih.register action

namespace Kept

variable {table : CommandTable} {history : List Action}

theorem resolve_eq (h : Kept table history) (name : String) :
    table.resolve name = (last? history name).getD table.help := by
  rw [resolve, h.find?_eq]

theorem names_eq (h : Kept table history) : table.names = firstNames history ++ [helpName] := by
  rw [names, h.order_eq, firstNames]

/-- A name that is taken stands for the action registered last under it. -/
theorem find?_of_taken (h : Kept table history) {name : String} (htaken : IsTaken history name) :
    table.find? name = some (table.resolve name) := by
  rw [h.resolve_eq, h.find?_eq]
  cases hlast : last? history name with
  | none => exact absurd htaken (last?_eq_none_iff.mp hlast)
  | some action => rfl

theorem resolve_of_not_taken (h : Kept table history) {name : String}
    (hfree : ¬ IsTaken history name) : table.resolve name = table.help := by
  rw [h.resolve_eq, last?_eq_none_iff.mpr hfree]
  rfl

/-- What the help lists is what the names stand for. -/
theorem listed_eq (h : Kept table history) :
    table.listed = (firstNames history).map table.resolve := by
  rw [listed, h.order_eq, ← firstNames, List.filterMap_eq_map_iff_forall_eq_some]
  intro name hname
  exact h.find?_of_taken (mem_firstNames.mp hname).2

/-- The built-in help replies with what the names stand for. -/
theorem help_run (h : Kept table history) (args : List String) (m : Incoming) :
    table.help.run args m =
      pure (m.reply (listing ((firstNames history).map table.resolve))) := by
  rw [← h.listed_eq, ← h.helpText_eq]
  rfl

/-- The built-in help of a table depends on nothing but its listing. -/
theorem help_eq (h : Kept table history) {table' : CommandTable} {history' : List Action}
    (h' : Kept table' history') (hnames : firstNames history' = firstNames history)
    (hlast : ∀ name, name ≠ helpName → last? history' name = last? history name) :
    table'.help = table.help := by
  have hlisted : table'.listed = table.listed := by
    rw [listed, listed, h'.order_eq, h.order_eq, ← firstNames, ← firstNames, hnames]
    refine List.filterMap_congr ?_
    intro name hname
    rw [h'.find?_eq, h.find?_eq]
    exact hlast name (mem_firstNames.mp hname).1
  rw [help, help, h'.helpText_eq, h.helpText_eq, hlisted]

end Kept

/-! ## What names stand for -/

/-- What the names stand for in a table with a history. -/
structure Resolution (table : CommandTable) (history : List Action) : Prop where
  /-- The action registered last under a name, or the built-in help. -/
  resolve_eq : ∀ name, table.resolve name = (last? history name).getD table.help
  /-- An action is reached by its own name only; every name that is not taken reaches the help. -/
  reached : ∀ name,
    (IsTaken history name ∧ table.resolve name ∈ history ∧ (table.resolve name).name = name) ∨
      (¬ IsTaken history name ∧ table.resolve name = table.help)
  /-- Registering an action leaves the other names that are taken alone. -/
  others : ∀ action name, name ≠ action.name → IsTaken history name →
    (table.register action).resolve name = table.resolve name
  /-- A help that is registered changes nothing for any name but its own, taken or not. -/
  own_help : ∀ action, action.name = helpName → ∀ name, name ≠ helpName →
    (table.register action).resolve name = table.resolve name
  /-- The built-in help lists what the names stand for at present. -/
  current : ∀ args m, table.help.run args m =
    pure (m.reply (listing ((firstNames history).map table.resolve)))

/-- The last action registered under a name is the one it stands for, and a name without an action
stands for the built-in help. -/
theorem resolution_of_registered {table : CommandTable} {history : List Action}
    (h : Registered table history) : Resolution table history := by
  have hkept := kept_of_registered h
  constructor
  case resolve_eq => exact hkept.resolve_eq
  case reached =>
    intro name
    by_cases htaken : IsTaken history name
    · left
      have hfind := hkept.find?_of_taken htaken
      rw [hkept.find?_eq] at hfind
      exact ⟨htaken, List.mem_reverse.mp (List.mem_of_find?_eq_some hfind),
        by simpa using List.find?_some hfind⟩
    · right
      exact ⟨htaken, hkept.resolve_of_not_taken htaken⟩
  case others =>
    intro action name hne htaken
    have hfind := hkept.find?_of_taken htaken
    rw [(hkept.register action).resolve_eq, last?_concat, if_neg (Ne.symm hne),
      ← hkept.find?_eq, hfind]
    rfl
  case own_help =>
    intro action hhelp name hne
    have hlast : ∀ n, n ≠ helpName → last? (history ++ [action]) n = last? history n := by
      intro n hn
      rw [last?_concat, hhelp, if_neg (Ne.symm hn)]
    -- the help that is registered is not listed, so the built-in one stays what it is
    have hsame : (table.register action).help = table.help :=
      hkept.help_eq (hkept.register action) (firstNames_concat_of_help hhelp) hlast
    rw [(hkept.register action).resolve_eq, hkept.resolve_eq, hlast name hne, hsame]
  case current => exact hkept.help_run

/-- An action that says its arguments again. -/
def parrot (name usage : String) : Action where
  name := name
  usage := usage
  description := "repeat the arguments"
  run args m := pure (m.reply (" ".intercalate args))

/-- A help of its own, and two actions in the place of a built-in one, the second of which stays. -/
theorem resolution_of_registered_replaced :
    let ownHelp := parrot "help" "help me"
    let first := parrot "stats" "stats before"
    let second := parrot "stats" "stats now"
    let table := ((CommandTable.builtIn.register ownHelp).register first).register second
    let history := [Action.ojichat, Action.stats, Action.version, ownHelp, first, second]
    Registered table history ∧ table.resolve "stats" = second ∧
      table.resolve "version" = Action.version ∧ table.resolve "help" = ownHelp ∧
      table.resolve "nope" = table.help ∧ Resolution table history := by
  intro ownHelp first second table history
  have h : Registered table history :=
    ((Registered.builtIn.register ownHelp).register first).register second
  exact ⟨h, rfl, rfl, rfl, rfl, resolution_of_registered h⟩

/-! ## What is listed -/

/-- What a table with a history lists. -/
structure Listing (table : CommandTable) (history : List Action) : Prop where
  names_eq : table.names = firstNames history ++ [helpName]
  nodup : table.names.Nodup
  mem_iff : ∀ name, name ∈ firstNames history ↔ name ≠ helpName ∧ IsTaken history name
  /-- The names come in the order of their first registrations. -/
  ordered : (firstNames history).Pairwise fun a b =>
    (history.map (·.name)).idxOf a < (history.map (·.name)).idxOf b
  /-- Registering a name once more does not move it. -/
  unmoved : ∀ action, IsTaken history action.name → (table.register action).names = table.names
  /-- Whoever asks for a name that is not taken is told of each name what it stands for now. -/
  answer : ∀ name, ¬ IsTaken history name → ∀ args m, (table.resolve name).run args m =
    pure (m.reply ("\n".intercalate ("active skills:" ::
      (firstNames history).map (fun n =>
        "  $ " ++ (table.resolve n).usage ++ "\t" ++ (table.resolve n).description) ++
      ["  $ help\tshow this message", "passive skills:", "  - notify emoji event",
        "  - notify channel event"])))
  /-- All this is the same for any history with the same names in their order and the same actions
  in the end. -/
  determined : ∀ table' history', Registered table' history' →
    firstNames history' = firstNames history →
    (∀ name, name ≠ helpName → last? history' name = last? history name) →
    table'.names = table.names ∧ table'.help = table.help

/-- Names and help text list the names as they were first registered, with what they stand for
now. -/
theorem listing_of_registered {table : CommandTable} {history : List Action}
    (h : Registered table history) : Listing table history := by
  have hkept := kept_of_registered h
  constructor
  case names_eq => exact hkept.names_eq
  case nodup =>
    rw [hkept.names_eq, List.nodup_append]
    refine ⟨firstNames_nodup history, List.nodup_singleton _, ?_⟩
    intro a ha b hb
    rw [List.mem_singleton.mp hb]
    exact (mem_firstNames.mp ha).1
  case mem_iff => exact fun _ => mem_firstNames
  case ordered => exact firstNames_ordered history
  case unmoved =>
    intro action htaken
    rw [(hkept.register action).names_eq, hkept.names_eq, firstNames_concat_of_taken htaken]
  case answer =>
    intro name hfree args m
    have hlast : "  $ " ++ helpName ++ "\t" ++ helpDescription = "  $ help\tshow this message" := by
      decide
    have hlines : ((firstNames history).map table.resolve).map helpLine =
        (firstNames history).map fun n =>
          "  $ " ++ (table.resolve n).usage ++ "\t" ++ (table.resolve n).description :=
      List.map_map
    rw [hkept.resolve_of_not_taken hfree, hkept.help_run, listing, hlines, hlast]
  case determined =>
    intro table' history' h' hnames hlast
    have hkept' := kept_of_registered h'
    refine ⟨?_, hkept.help_eq hkept' hnames hlast⟩
    rw [hkept'.names_eq, hkept.names_eq, hnames]

/-- A name is registered once more, behind a help. -/
theorem listing_of_registered_again :
    let first := parrot "echo" "echo <words>"
    let other := parrot "crow" "crow"
    let second := parrot "echo" "echo [words]"
    let table := (((CommandTable.empty.register first).register (parrot "help" "help me")).register
      other).register second
    let history := [first, parrot "help" "help me", other, second]
    Registered table history ∧ table.names = ["echo", "crow", "help"] ∧
      table.helpText = "active skills:\n" ++
        "  $ echo [words]\trepeat the arguments\n  $ crow\trepeat the arguments\n" ++
        "  $ help\tshow this message\n" ++
        "passive skills:\n  - notify emoji event\n  - notify channel event" ∧
      Listing table history := by
  intro first other second table history
  have h : Registered table history :=
    (((Registered.empty.register first).register _).register other).register second
  exact ⟨h, by decide, by decide +kernel, listing_of_registered h⟩

end Herald.CommandTable
