import SyntaxOutline.Files.Transfer

/-!
# What writing a file leaves alone

A file is put only where a file can be: not at the root, not in place of a directory, a device or a
link (`Vacant`). Then no other node changes, and no path leads anywhere else than before, since the
way to a node passes through directories and links only (`look_put`, `walk_put`). So a path that
leads to another node has the same contents as before, and one that leads to the file has the new
ones.

Some errors do change. A path that goes through a file that was missing is refused for another
reason once it is there.
-/

namespace SyntaxOutline

/-- A computation succeeds exactly if its two halves do. -/
theorem bind_eq_ok_iff {ε α β : Type} {x : Except ε α} {f : α → Except ε β} {b : β} :
    x >>= f = .ok b ↔ ∃ a, x = .ok a ∧ f a = .ok b := by
  cases x with
  | error e => exact ⟨nofun, nofun⟩
  | ok a => exact ⟨fun h => ⟨a, rfl, h⟩, fun ⟨_, ha, h⟩ => by cases ha; exact h⟩

namespace FileStore

/-- A route where a regular file is, or could be made. -/
structure Vacant (s : FileStore) (route : Route) : Prop where
  ne_nil : route ≠ []
  node : s.node? route = none ∨ ∃ contents, s.node? route = some (.file contents)

variable {s : FileStore} {route : Route}

/-! ## Nodes -/

/-- Entries for one route do not matter for another. -/
theorem lookup_filter_ne {q : Route} (h : q ≠ route) (nodes : List (Route × Node)) :
    (nodes.filter (·.1 != route)).lookup q = nodes.lookup q := by
  induction nodes with
  | nil => rfl
  | cons entry nodes ih =>
    obtain ⟨r, n⟩ := entry
    by_cases hr : r = route
    · subst hr
      have hq : (q == r) = false := beq_eq_false_iff_ne.mpr h
      rw [List.filter_cons_of_neg (by simp), List.lookup_cons, hq]
      exact ih
    · rw [List.filter_cons_of_pos (by simpa using hr), List.lookup_cons, List.lookup_cons, ih]

/-- A node that is put at a route is there, and all others are where they were. -/
theorem node?_put (hroute : route ≠ []) (node : Node) (q : Route) :
    (s.put route node).node? q = if q = route then some node else s.node? q := by
  unfold node? put
  by_cases hq : q = route
  · subst hq
    rw [if_pos rfl, if_neg (by simpa using hroute)]
    simp
  · rw [if_neg hq]
    by_cases hnil : q.isEmpty
    · rw [if_pos hnil, if_pos hnil]
    · have hbeq : (q == route) = false := beq_eq_false_iff_ne.mpr hq
      rw [if_neg hnil, if_neg hnil, List.lookup_cons, hbeq]
      exact lookup_filter_ne hq s.nodes

/-- Of two nodes that are put at one route the second stays. -/
theorem put_put (first second : Node) :
    (s.put route first).put route second = s.put route second := by
  simp [put, List.filter_filter]

/-! ## Links -/

/-- What is no link stands for itself. -/
theorem follow_of_not_link (h : ∀ target, s.node? route ≠ some (.link target)) (n : Nat) :
    s.follow n route = .ok route := by
  cases n with
  | zero =>
    unfold follow
    split
    · next target hlink => exact absurd hlink (h target)
    · rfl
  | succ n =>
    unfold follow
    split
    · next target hlink => exact absurd hlink (h target)
    · rfl

/-- What a path may lead to at its end is no link. -/
theorem Vacant.not_link (h : s.Vacant route) (target : Route) :
    s.node? route ≠ some (.link target) := by
  intro hlink
  rcases h.node with hnone | ⟨contents, hfile⟩
  · cases hlink.symm.trans hnone
  · cases hlink.symm.trans hfile

/-- A place stays vacant in the sense of `Vacant` when a file is put there. -/
theorem Vacant.put (h : s.Vacant route) (contents : ByteArray) :
    (s.put route (.file contents)).Vacant route := by
  refine ⟨h.ne_nil, .inr ⟨contents, ?_⟩⟩
  rw [node?_put h.ne_nil, if_pos rfl]

/-- A file in the place of a file, or of nothing, is no link, so links lead where they led. -/
theorem follow_put (h : s.Vacant route) (contents : ByteArray) (n : Nat) (q : Route) :
    (s.put route (.file contents)).follow n q = s.follow n q := by
  -- At the route itself no link is followed, before or after.
  have hroute : ∀ n, (s.put route (.file contents)).follow n route = s.follow n route := by
    intro n
    rw [follow_of_not_link (h.put contents).not_link, follow_of_not_link h.not_link]
  by_cases hq : q = route
  · rw [hq, hroute]
  induction n generalizing q with
  | zero => rw [follow, follow, node?_put h.ne_nil, if_neg hq]
  | succ n ih =>
    rw [follow, follow, node?_put h.ne_nil, if_neg hq]
    cases hnode : s.node? q with
    | none => rfl
    | some node =>
      cases node with
      | link target =>
        by_cases htarget : target = route
        · rw [htarget]
          exact hroute n
        · exact ih target htarget
      | _ => rfl

/-- What is found is the node at the route behind the links. -/
theorem node?_of_look {q : Route} {found : Option Node} (h : s.look q = .ok (route, found)) :
    s.node? route = found := by
  unfold look at h
  split at h
  · cases h
  · cases hfollow : s.follow maxLinks q with
    | error e =>
      rw [hfollow] at h
      cases h
    | ok r =>
      rw [hfollow] at h
      cases h
      rfl

/-- Looking finds what it found before, but for the file that was put. -/
theorem look_put (h : s.Vacant route) (contents : ByteArray) (q : Route) :
    (s.put route (.file contents)).look q =
      (s.look q).map fun (r, found) => (r, if r = route then some (.file contents) else found) := by
  unfold look
  split
  · rfl
  · rw [follow_put h]
    cases s.follow maxLinks q with
    | error e => rfl
    | ok r =>
      show Except.ok (r, (s.put route (.file contents)).node? r) = _
      rw [node?_put h.ne_nil]
      rfl

/-- A file is found at a path's end where one was found before, or where it was put. -/
theorem look_put_file_iff (h : s.Vacant route) {contents bytes : ByteArray} {q r : Route} :
    (s.put route (.file contents)).look q = .ok (r, some (.file bytes)) ↔
      if r = route then (∃ found, s.look q = .ok (r, found)) ∧ bytes = contents
      else s.look q = .ok (r, some (.file bytes)) := by
  rw [look_put h]
  cases s.look q with
  | error e => simp [Except.map]
  | ok result =>
    obtain ⟨r', found⟩ := result
    -- The path comes out at the new file or somewhere else, and so does the route asked for.
    by_cases hr : r' = route
    · subst hr
      by_cases hrr : r = r'
      · subst hrr
        simp [Except.map, eq_comm]
      · simp [Except.map, hrr, Ne.symm hrr]
    · by_cases hrr : r = route
      · subst hrr
        simp [Except.map, hr]
      · simp [Except.map, hr, hrr]

/-! ## Paths -/

/-- A walk goes on from a name that stands for a directory. -/
theorem walk_cons_iff {directory last : Route} {part : String} {parts : List String}
    (hdot : part ≠ ".") (hup : part ≠ "..") :
    s.walk directory (part :: parts) = .ok last ↔
      ∃ next, s.look (directory ++ [part]) = .ok (next, some .directory) ∧
        s.walk next parts = .ok last := by
  rw [walk, if_neg hdot, if_neg hup]
  cases hlook : s.look (directory ++ [part]) with
  | error e => simp
  | ok result =>
    obtain ⟨next, found⟩ := result
    rcases found with _ | (_ | _ | _ | _ | _) <;> simp

/-- A walk goes through directories, so it does not come by the file. -/
theorem walk_put (h : s.Vacant route) (contents : ByteArray) (directory : Route)
    (parts : List String) (last : Route) :
    (s.put route (.file contents)).walk directory parts = .ok last ↔
      s.walk directory parts = .ok last := by
  -- The only names that the file could change stand for no directory.
  have hdirectory : ∀ q next, (s.put route (.file contents)).look q = .ok (next, some .directory) ↔
      s.look q = .ok (next, some .directory) := by
    intro q next
    rw [look_put h]
    cases hlook : s.look q with
    | error e => simp [Except.map]
    | ok result =>
      obtain ⟨r, found⟩ := result
      by_cases hr : r = route
      · -- Neither the file nor what was there before it is a directory.
        subst hr
        have hno : found ≠ some .directory := by
          rintro rfl
          rcases h.node with hnode | ⟨c, hnode⟩
          · rw [node?_of_look hlook] at hnode
            cases hnode
          · rw [node?_of_look hlook] at hnode
            cases hnode
        simp [Except.map, hno]
      · simp [Except.map, hr]
  -- Each part of the path leads to the directory that it led to.
  induction parts generalizing directory with
  | nil => rfl
  | cons part parts ih =>
    by_cases hdot : part = "."
    · rw [walk, walk, if_pos hdot, if_pos hdot]
      exact ih directory
    by_cases hup : part = ".."
    · rw [walk, walk, if_neg hdot, if_neg hdot, if_pos hup, if_pos hup]
      exact ih directory.dropLast
    rw [walk_cons_iff hdot hup, walk_cons_iff hdot hup]
    simp only [hdirectory, ih]

/-- A path spells the route that it spelled. -/
theorem locate_put (h : s.Vacant route) (contents : ByteArray) (p : Path) (last : Route) :
    (s.put route (.file contents)).locate p = .ok last ↔ s.locate p = .ok last := by
  unfold locate
  dsimp only
  split
  · exact Iff.rfl
  · rw [bind_eq_ok_iff, bind_eq_ok_iff]
    simp only [walk_put h]
    exact Iff.rfl

/-- A path leads to a route if it is one, spells a route, and that one stands for it. -/
theorem leadsTo_eq_ok_iff {path : String} :
    s.leadsTo path = .ok route ↔
      ∃ p q found, Path.ofText path = .ok p ∧ s.locate p = .ok q ∧
        s.look q = .ok (route, found) := by
  rw [leadsTo, bind_eq_ok_iff]
  constructor
  · intro h
    obtain ⟨p, hp, h⟩ := h
    obtain ⟨q, hq, h⟩ := bind_eq_ok_iff.mp h
    obtain ⟨⟨r, found⟩, hlook, h⟩ := bind_eq_ok_iff.mp h
    cases h
    exact ⟨p, q, found, hp, hq, hlook⟩
  · intro h
    obtain ⟨p, q, found, hp, hq, hlook⟩ := h
    exact ⟨p, hp, bind_eq_ok_iff.mpr ⟨q, hq, bind_eq_ok_iff.mpr ⟨_, hlook, rfl⟩⟩⟩

/-- The contents of a file are found at a path that leads to it and is not closed by a slash. -/
theorem contents?_eq_some_iff {path : String} {contents : ByteArray} :
    s.contents? path = some contents ↔
      ∃ p q r, Path.ofText path = .ok p ∧ s.locate p = .ok q ∧ p.closed = false ∧
        s.look q = .ok (r, some (.file contents)) := by
  have hfind : s.contents? path = some contents ↔ s.find path = .ok (.file contents) := by
    unfold contents?
    split
    · next found hfound =>
      rw [hfound]
      simp
    · next hno =>
      constructor
      · nofun
      · intro h
        exact absurd h (hno contents)
  rw [hfind, find, bind_eq_ok_iff]
  constructor
  · intro h
    obtain ⟨p, hp, h⟩ := h
    obtain ⟨q, hq, h⟩ := bind_eq_ok_iff.mp h
    obtain ⟨⟨r, found⟩, hfound, h⟩ := bind_eq_ok_iff.mp h
    refine ⟨p, q, r, hp, hq, ?_⟩
    -- A slash at the end asks for a directory, so it refuses a file.
    cases hclosed : p.closed with
    | true =>
      rw [hclosed] at h
      rcases found with _ | (_ | _ | _ | _ | _) <;> cases h
    | false =>
      rw [hclosed] at h
      rcases found with _ | (_ | _ | _ | _ | _) <;> cases h
      exact ⟨rfl, hfound⟩
  · intro h
    obtain ⟨p, q, r, hp, hq, hclosed, hlook⟩ := h
    refine ⟨p, hp, bind_eq_ok_iff.mpr ⟨q, hq, bind_eq_ok_iff.mpr ⟨_, hlook, ?_⟩⟩⟩
    rw [hclosed]
    rfl

/-- A path that leads elsewhere has the contents that it had. -/
theorem contents?_put_of_ne (h : s.Vacant route) (contents : ByteArray) {path : String}
    (hne : s.leadsTo path ≠ .ok route) :
    (s.put route (.file contents)).contents? path = s.contents? path := by
  apply Option.ext
  intro c
  rw [contents?_eq_some_iff, contents?_eq_some_iff]
  have hiff : ∀ p q r, Path.ofText path = .ok p → s.locate p = .ok q →
      ((s.put route (.file contents)).look q = .ok (r, some (.file c)) ↔
        s.look q = .ok (r, some (.file c))) := by
    intro p q r hp hq
    rw [look_put_file_iff h]
    split
    · next hr =>
      -- The path would lead to the file.
      subst hr
      have hno : ∀ found, s.look q ≠ .ok (r, found) := fun found hlook =>
        hne (leadsTo_eq_ok_iff.mpr ⟨p, q, found, hp, hq, hlook⟩)
      simp [hno]
    · exact Iff.rfl
  constructor
  · intro hfound
    obtain ⟨p, q, r, hp, hq, hclosed, hlook⟩ := hfound
    rw [locate_put h] at hq
    exact ⟨p, q, r, hp, hq, hclosed, (hiff p q r hp hq).mp hlook⟩
  · intro hfound
    obtain ⟨p, q, r, hp, hq, hclosed, hlook⟩ := hfound
    exact ⟨p, q, r, hp, (locate_put h contents p q).mpr hq, hclosed, (hiff p q r hp hq).mpr hlook⟩

/-! ## Files that are opened -/

/-- A path at which a file can be written. -/
structure Writable (s : FileStore) (path : String) (route : Route) : Prop where
  vacant : s.Vacant route
  leadsTo : s.leadsTo path = .ok route
  contents (bytes : ByteArray) : (s.put route (.file bytes)).contents? path = some bytes

/-- A path that is not closed by a slash and leads to a file, or to where one could be. -/
theorem writable_of_look {path : String} {p : Path} {q : Route} {found : Option Node}
    (hp : Path.ofText path = .ok p) (hq : s.locate p = .ok q) (hclosed : p.closed = false)
    (hlook : s.look q = .ok (route, found)) (hfound : found = none ∨ ∃ c, found = some (.file c)) :
    s.Writable path route := by
  have hnode := node?_of_look hlook
  have hvacant : s.Vacant route := by
    refine ⟨?_, ?_⟩
    · -- The root is a directory.
      rintro rfl
      rcases hfound with rfl | ⟨c, rfl⟩ <;> cases hnode
    · rw [hnode]
      exact hfound
  refine ⟨hvacant, leadsTo_eq_ok_iff.mpr ⟨p, q, found, hp, hq, hlook⟩, ?_⟩
  intro bytes
  refine contents?_eq_some_iff.mpr
    ⟨p, q, route, hp, (locate_put hvacant bytes p q).mpr hq, hclosed, ?_⟩
  rw [look_put_file_iff hvacant, if_pos rfl]
  exact ⟨⟨found, hlook⟩, rfl⟩

/-- A regular file that is opened is empty then. -/
theorem openFile_eq_ok {opened : Opened} {made : FileStore}
    (h : s.openFile route = .ok (opened, made)) :
    opened = .file route ∧ made = s.put route (.file .empty) := by
  unfold openFile at h
  split at h
  · cases h
  · cases h
    exact ⟨rfl, rfl⟩

/-- What has been opened is a device, and nothing has changed, or it is a file that is now empty. -/
theorem create_eq_ok {path : String} {opened : Opened} {made : FileStore}
    (h : s.create path = .ok (opened, made)) :
    ((∃ full, opened = .device full) ∧ made = s) ∨
      ∃ route, s.Writable path route ∧ opened = .file route ∧
        made = s.put route (.file .empty) := by
  unfold create at h
  obtain ⟨p, hp, h⟩ := bind_eq_ok_iff.mp h
  obtain ⟨q, hq, h⟩ := bind_eq_ok_iff.mp h
  cases hclosed : p.closed with
  | true =>
    rw [hclosed] at h
    cases h
  | false =>
  rw [hclosed] at h
  obtain ⟨⟨r, found⟩, hlook, h⟩ := bind_eq_ok_iff.mp h
  -- There is nothing yet, or what is there is opened as what it is.
  rcases found with _ | (_ | c | _ | _ | _)
  · dsimp only at h
    split at h
    · obtain ⟨hopened, hmade⟩ := openFile_eq_ok h
      exact .inr ⟨r, writable_of_look hp hq hclosed hlook (.inl rfl), hopened, hmade⟩
    · cases h
  · cases h
  · obtain ⟨hopened, hmade⟩ := openFile_eq_ok h
    exact .inr ⟨r, writable_of_look hp hq hclosed hlook (.inr ⟨c, rfl⟩), hopened, hmade⟩
  · cases h
    exact .inl ⟨⟨true, rfl⟩, rfl⟩
  · cases h
    exact .inl ⟨⟨false, rfl⟩, rfl⟩
  · cases h

section Keep

variable {path : String} {opened : Opened} {made : FileStore}

/-- To open an output changes nothing in what the system refuses. -/
theorem access_of_create (h : s.create path = .ok (opened, made)) : made.access = s.access := by
  rcases create_eq_ok h with ⟨-, rfl⟩ | ⟨r, -, -, rfl⟩
  · rfl
  · rfl

/-- What an opened file takes is found at its path. -/
theorem contents?_keep_file (h : s.create path = .ok (.file route, made)) (bytes : ByteArray) :
    (made.keep bytes (.file route)).contents? path = some bytes := by
  rcases create_eq_ok h with ⟨⟨full, hopened⟩, -⟩ | ⟨r, hwritable, hopened, rfl⟩
  · cases hopened
  · cases hopened
    rw [keep, put_put]
    exact hwritable.contents bytes

/-- Whatever an opened file takes, every other node is as it was. -/
theorem node?_keep (h : s.create path = .ok (opened, made)) (bytes : ByteArray) {q : Route}
    (hq : s.leadsTo path ≠ .ok q) : (made.keep bytes opened).node? q = s.node? q := by
  rcases create_eq_ok h with ⟨⟨full, rfl⟩, rfl⟩ | ⟨r, hwritable, rfl, rfl⟩
  · rfl
  · have hne : q ≠ r := by
      intro hne
      exact hq (hne ▸ hwritable.leadsTo)
    rw [keep, put_put, node?_put hwritable.vacant.ne_nil, if_neg hne]

/-- Whatever an opened file takes, every path that leads elsewhere has the contents that it had. -/
theorem contents?_keep (h : s.create path = .ok (opened, made)) (bytes : ByteArray) {other : String}
    (hother : s.leadsTo other ≠ s.leadsTo path) :
    (made.keep bytes opened).contents? other = s.contents? other := by
  rcases create_eq_ok h with ⟨⟨full, rfl⟩, rfl⟩ | ⟨r, hwritable, rfl, rfl⟩
  · rfl
  · rw [hwritable.leadsTo] at hother
    rw [keep, put_put, contents?_put_of_ne hwritable.vacant bytes hother]

end Keep

end FileStore

end SyntaxOutline
