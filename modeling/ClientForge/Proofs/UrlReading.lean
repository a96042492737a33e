import ClientForge.Proofs.DotSegments

/-!
How a URL is read. It is cut into the server, which ends at the first slash behind its name, the
path, and what follows a question mark or a number sign; blanks at both ends and line breaks within
are dropped before. So what is read of a path that is put behind an address is a matter of the path
alone, and it leads somewhere from the place of the address.

Results:
1. `parse?_eq`: parsing in two steps, the server and the place on it.
2. `site?_append`, `locate_through`: both steps on a text that goes on behind a slash.
3. `readPath_eq_self_iff`: when all of a path is read.
4. `IsBase.parse?_below`: the URL that a path behind an address is.
5. `IsBase.of_parse?`: which URLs paths can be put behind.
-/

namespace ClientForge.Http.Url

/-! ## Definitions -/

/-- Space and control characters are dropped at the end of a URL. -/
def isEdgeBlank (c : Char) : Bool := c.toNat ≤ 0x20

/-- Requests to the address go below this URL, which has neither query nor fragment. -/
structure IsBase (base : String) (url : Url) : Prop where
  parsed : parse? (base ++ "/") = some url
  query : url.query = none
  fragment : url.fragment = none

/-! ## Cutting -/

theorem dropWhile_through {p : Char → Bool} {y : Char} (hy : p y = false) (front back : List Char) :
    (front ++ y :: back).dropWhile p = front.dropWhile p ++ y :: back := by
  rw [List.dropWhile_append]
  split
  · next hempty =>
    rw [List.isEmpty_iff.mp hempty, List.nil_append, List.dropWhile_cons_of_neg (by simp [hy])]
  · rfl

theorem dropEndWhile_through {p : Char → Bool} {y : Char} (hy : p y = false)
    (front back : List Char) :
    Text.dropEndWhile p (front ++ y :: back) = front ++ y :: Text.dropEndWhile p back := by
  rw [Text.dropEndWhile, Text.dropEndWhile, List.reverse_append, List.reverse_cons,
    List.append_assoc, List.singleton_append, dropWhile_through hy]
  simp

/-- A character at which a text is cut ends the search there at the latest. -/
theorem cutAt_through {p : Char → Bool} {y : Char} (hy : p y) (front back : List Char) :
    cutAt p (front ++ y :: back) = ((cutAt p front).1, (cutAt p front).2 ++ y :: back) := by
  have hy' : (!p y) = false := by simp [hy]
  rw [cutAt, cutAt, dropWhile_through hy', List.takeWhile_append]
  split
  · next hlength =>
    rw [List.takeWhile_cons_of_neg (by simp [hy]), List.append_nil,
      (List.takeWhile_prefix _).eq_of_length hlength]
  · rfl

theorem cutAt_none {p : Char → Bool} {cs : List Char} (h : ∀ c ∈ cs, p c = false)
    (rest : List Char) : cutAt p (cs ++ rest) = (cs ++ (cutAt p rest).1, (cutAt p rest).2) := by
  have hall : ∀ c ∈ cs, (!p c) = true := fun c hc => by rw [h c hc]; rfl
  rw [cutAt, cutAt, List.takeWhile_append_of_pos hall, List.dropWhile_append_of_pos hall]

/-- A tab or a line break is dropped anywhere in a URL. -/
def isKept (c : Char) : Bool := c != '\t' && c != '\n' && c != '\r'

/-- What is read of a text that ends a URL. -/
def trail (cs : List Char) : List Char := (Text.dropEndWhile isEdgeBlank cs).filter isKept

theorem trail_nil : trail [] = [] := rfl

/-- What is read of a text that a URL starts with. -/
def lead (cs : List Char) : List Char := (cs.dropWhile isEdgeBlank).filter isKept

theorem bare_through {base path : String} {cs : List Char} (hpath : path.toList = '/' :: cs) :
    bare (base ++ path) = lead base.toList ++ '/' :: trail cs := by
  have hslash : isEdgeBlank '/' = false := by decide
  have hbare : bare (base ++ path) =
    (Text.strip isEdgeBlank (base ++ path).toList).filter isKept := rfl
  rw [hbare, String.toList_append, hpath, Text.strip, dropWhile_through hslash,
    dropEndWhile_through hslash, List.filter_append, List.filter_cons_of_pos (by decide)]
  rfl

/-- At the end of a URL, blanks are dropped that are kept if the text goes on. -/
theorem lead_eq (base : String) :
    ∃ blanks, lead base.toList = bare base ++ blanks ∧ ∀ c ∈ blanks, isEdgeBlank c := by
  let text := base.toList.dropWhile isEdgeBlank
  refine ⟨(text.rtakeWhile isEdgeBlank).filter isKept, ?_, fun c hc => ?_⟩
  · have hsplit : text.rdropWhile isEdgeBlank ++ text.rtakeWhile isEdgeBlank = text :=
      List.rdropWhile_append_rtakeWhile
    exact (congrArg (List.filter isKept) hsplit).symm.trans (List.filter_append _ _)
  · exact List.mem_rtakeWhile_imp (List.mem_of_mem_filter hc)

/-- The server of a URL, without a place on it. -/
def server? (secure : Bool) (authority : List Char) : Option Url := do
  let host ← host? (hostAndDigits authority).1
  let portNumber ← portNumber? secure (hostAndDigits authority).2
  return ⟨secure, host, portNumber, [], none, none⟩

def endsAuthority (c : Char) : Bool := isSlash c || c == '?' || c == '#'

/-- The server of a URL and what follows it, read from what is behind the scheme. -/
def serverThen? (secure : Bool) (cs : List Char) : Option (Url × List Char) :=
  let cut := cutAt endsAuthority (cs.dropWhile isSlash)
  (server? secure cut.1).map (·, cut.2)

/-- The server of a URL and what follows it. -/
def site? (cs : List Char) : Option (Url × List Char) :=
  (scheme? cs).bind fun found => serverThen? found.1 found.2

def endsPath (c : Char) : Bool := c == '?' || c == '#'

/-- A separator in the form that paths are split at. -/
def clean (c : Char) : Char := if isSlash c then '/' else c

/-- The segments of a path, with a character in front that is passed over. -/
def segmentsOf (cs : List Char) : List (List Char) :=
  ((cs.map fun c => if isSlash c then '/' else c).drop 1).splitOn '/'

/-- What a query or a fragment holds, behind the character that opens it. -/
def part (special : List Char) (cs : List Char) : Option String :=
  if cs.isEmpty then none else some (String.ofList (encode special (cs.drop 1)))

/-- The place on a server that a text leads to. -/
def locate (site : Url) (cs : List Char) : Url :=
  let tail := cutAt (· == '#') (cutAt endsPath cs).2
  { site with
    path := normalize [] (segmentsOf (cutAt endsPath cs).1)
    query := part querySpecial tail.1
    fragment := part fragmentSpecial tail.2 }

theorem parse?_eq (text : String) :
    parse? text = (site? (bare text)).map fun (site, rest) => locate site rest := by
  have hends : endsAuthority = fun c => isSlash c || c == '?' || c == '#' := rfl
  rw [parse?, site?]
  cases scheme? (bare text) with
  | none => rfl
  | some found =>
    obtain ⟨secure, rest⟩ := found
    simp only [Option.bind_eq_bind, Option.bind_some, serverThen?, server?, hends]
    cases host? (hostAndDigits _).1 with
    | none => rfl
    | some host =>
      simp only [Option.bind_some]
      cases portNumber? secure _ with
      | none => rfl
      | some portNumber => rfl

theorem parse?_slash {base path : String} {cs : List Char} (hpath : path.toList = '/' :: cs) :
    parse? (base ++ path) =
      (site? (lead base.toList ++ '/' :: trail cs)).map fun f => locate f.1 f.2 := by
  rw [parse?_eq, bare_through hpath]

/-- Whether the name of a scheme is the secure one, and what follows the colon behind it. -/
def schemeThen? (name cs : List Char) : Option (Bool × List Char) :=
  match String.ofList (name.map Char.toLower), cs with
  | "http", ':' :: rest => some (false, rest)
  | "https", ':' :: rest => some (true, rest)
  | _, _ => none

theorem schemeThen?_ok {name cs rest : List Char} {secure : Bool}
    (h : schemeThen? name cs = some (secure, rest)) :
    cs = ':' :: rest ∧ ∀ others, schemeThen? name (':' :: others) = some (secure, others) := by
  unfold schemeThen? at h
  split at h
  · next hname =>
    cases h
    exact ⟨rfl, fun others => by simp only [schemeThen?, hname]⟩
  · next hname =>
    cases h
    exact ⟨rfl, fun others => by simp only [schemeThen?, hname]⟩
  · cases h

/-- A scheme is read up to its colon. -/
theorem scheme?_ok {cs rest : List Char} {secure : Bool} (h : scheme? cs = some (secure, rest)) :
    ∃ name, cs = name ++ ':' :: rest ∧
      ∀ others, scheme? (name ++ ':' :: others) = some (secure, others) := by
  let isColon : Char → Bool := (· == ':')
  obtain ⟨hrest, hread⟩ : (cutAt isColon cs).2 = ':' :: rest ∧ _ := schemeThen?_ok h
  refine ⟨(cutAt isColon cs).1, ?_, fun others => ?_⟩
  · rw [← hrest]
    exact List.takeWhile_append_dropWhile.symm
  · have hname : ∀ c ∈ (cutAt isColon cs).1, isColon c = false := fun c hc => by
      simpa using List.mem_takeWhile_imp hc
    have hcut : cutAt isColon ((cutAt isColon cs).1 ++ ':' :: others) =
        ((cutAt isColon cs).1, ':' :: others) := by
      rw [cutAt_none hname]
      simp [cutAt, isColon]
    have hscheme : scheme? ((cutAt isColon cs).1 ++ ':' :: others) =
        schemeThen? (cutAt isColon ((cutAt isColon cs).1 ++ ':' :: others)).1
          (cutAt isColon ((cutAt isColon cs).1 ++ ':' :: others)).2 := rfl
    rw [hscheme, hcut]
    exact hread others

/-- Behind the name of a server, a slash ends it if nothing else has. -/
theorem serverThen?_slash {cs : List Char} (secure : Bool) (h : cs.dropWhile isSlash ≠ [])
    (back : List Char) : serverThen? secure (cs ++ '/' :: back) =
      (serverThen? secure cs).map fun found => (found.1, found.2 ++ '/' :: back) := by
  rw [serverThen?, serverThen?, List.dropWhile_append, if_neg (by simpa using h),
    cutAt_through (by decide), Option.map_map]
  rfl

/-- Slashes alone name no server. -/
theorem dropWhile_ne_nil_of_serverThen? {cs : List Char} {secure : Bool} {found : Url × List Char}
    (h : serverThen? secure cs = some found) : cs.dropWhile isSlash ≠ [] := by
  intro hnone
  rw [serverThen?, hnone] at h
  cases h

/-- A URL goes on behind a slash without a change to its server. -/
theorem site?_append {cs rest : List Char} {site : Url} (h : site? cs = some (site, rest))
    (back : List Char) : site? (cs ++ '/' :: back) = some (site, rest ++ '/' :: back) := by
  obtain ⟨⟨secure, behind⟩, hscheme, hsite⟩ := Option.bind_eq_some_iff.mp h
  obtain ⟨name, rfl, hread⟩ := scheme?_ok hscheme
  have hserver := dropWhile_ne_nil_of_serverThen? hsite
  rw [site?, List.append_assoc, List.cons_append, hread, Option.bind_some,
    serverThen?_slash secure hserver, hsite]
  rfl

/-- A URL goes on behind blanks if a server has them in its name, or if they are in its path. -/
theorem site?_blanks {cs rest blanks : List Char} {site : Url} (h : site? cs = some (site, rest))
    (hrest : ∀ c ∈ rest, endsPath c = false) (hblanks : ∀ c ∈ blanks, isEdgeBlank c) :
    ∃ found : Option (Url × List Char),
      (∀ back, site? (cs ++ blanks ++ '/' :: back) =
        found.map fun f => (f.1, f.2 ++ '/' :: back)) ∧
      ∀ f ∈ found, ∀ c ∈ f.2, endsPath c = false := by
  obtain ⟨⟨secure, behind⟩, hscheme, hsite⟩ := Option.bind_eq_some_iff.mp h
  obtain ⟨name, rfl, hread⟩ := scheme?_ok hscheme
  have hserver := dropWhile_ne_nil_of_serverThen? hsite
  have hbehind : (behind ++ blanks).dropWhile isSlash = behind.dropWhile isSlash ++ blanks := by
    rw [List.dropWhile_append, if_neg (by simpa using hserver)]
  refine ⟨serverThen? secure (behind ++ blanks), fun back => ?_, fun f hf c hc => ?_⟩
  · rw [site?, List.append_assoc, List.append_assoc, List.cons_append, hread, Option.bind_some,
      ← List.append_assoc, serverThen?_slash secure (by simp [hbehind, hserver])]
  · obtain ⟨_, _, rfl⟩ := Option.map_eq_some_iff.mp hf
    obtain ⟨_, _, heq⟩ := Option.map_eq_some_iff.mp hsite
    cases heq
    rw [hbehind] at hc
    rcases List.mem_append.mp ((List.dropWhile_suffix _).subset hc) with hc | hc
    · rw [← List.takeWhile_append_dropWhile (p := (!endsAuthority ·)) (l := behind.dropWhile isSlash)]
        at hc
      rcases List.mem_append.mp hc with hc | hc
      · have hends := List.mem_takeWhile_imp hc
        rw [Bool.not_eq_true', endsAuthority, Bool.or_assoc, Bool.or_eq_false_iff] at hends
        exact hends.2
      · exact hrest c hc
    · refine Bool.eq_false_iff.mpr fun hends => ?_
      have hblank := hblanks c hc
      rw [endsPath, Bool.or_eq_true, beq_iff_eq, beq_iff_eq] at hends
      rcases hends with rfl | rfl <;> cases hblank

theorem site?_of_slash {cs rest : List Char} {site : Url}
    (h : site? (cs ++ ['/']) = some (site, rest)) :
    ∃ front, rest = front ++ ['/'] ∧ site? cs = some (site, front) := by
  obtain ⟨⟨secure, behind⟩, hscheme, hsite⟩ := Option.bind_eq_some_iff.mp h
  obtain ⟨name, hsplit, hread⟩ := scheme?_ok hscheme
  -- the slash is behind the colon
  obtain ⟨inner, rfl, rfl⟩ : ∃ inner, behind = inner ++ ['/'] ∧ cs = name ++ ':' :: inner := by
    rcases List.eq_nil_or_concat behind with rfl | ⟨inner, last, rfl⟩
    · obtain ⟨_, hlast⟩ := List.append_inj' hsplit rfl
      cases hlast
    · rw [List.concat_eq_append, ← List.cons_append, ← List.append_assoc] at hsplit
      obtain ⟨rfl, hlast⟩ := List.append_inj' hsplit rfl
      cases hlast
      exact ⟨inner, List.concat_eq_append, rfl⟩
  have hserver : inner.dropWhile isSlash ≠ [] := fun hnone => by
    refine dropWhile_ne_nil_of_serverThen? hsite ?_
    rw [List.dropWhile_append, hnone]
    rfl
  rw [serverThen?_slash secure hserver] at hsite
  obtain ⟨⟨_, front⟩, hfound, heq⟩ := Option.map_eq_some_iff.mp hsite
  cases heq
  exact ⟨front, rfl, by rw [site?, hread]; exact hfound⟩

/-- Without a query and a fragment, nothing ends the path. -/
theorem locate_all {site : Url} {cs : List Char} (hquery : (locate site cs).query = none)
    (hfragment : (locate site cs).fragment = none) : ∀ c ∈ cs, endsPath c = false := by
  cases htail : (cutAt endsPath cs).2 with
  | nil => simpa [cutAt, List.dropWhile_eq_nil_iff] using htail
  | cons c rest =>
    have hends : endsPath c := by
      have hhead := List.head?_dropWhile_not (!endsPath ·) cs
      rw [show cs.dropWhile (!endsPath ·) = c :: rest from htail] at hhead
      simpa using hhead
    rw [locate, htail] at hquery hfragment
    rw [endsPath, Bool.or_eq_true, beq_iff_eq, beq_iff_eq] at hends
    rcases hends with rfl | rfl
    · simp [cutAt, part] at hquery
    · simp [cutAt, part] at hfragment

theorem locate_path {site : Url} {cs : List Char} (h : ∀ c ∈ cs, endsPath c = false) :
    (locate site cs).query = none ∧ (locate site cs).fragment = none := by
  have hcut : cutAt endsPath cs = (cs, []) := by simpa [cutAt] using cutAt_none h []
  rw [locate, hcut]
  exact ⟨rfl, rfl⟩

theorem segmentsOf_ne_nil (cs : List Char) : segmentsOf cs ≠ [] := List.splitOn_ne_nil _ _

theorem segmentsOf_through (front : List Char) : ∃ before, ∀ back,
    segmentsOf (front ++ '/' :: back) = before ++ segmentsOf ('/' :: back) := by
  cases front with
  | nil => exact ⟨[], fun _ => rfl⟩
  | cons c front =>
    refine ⟨(front.map clean).splitOn '/', fun back => ?_⟩
    have hdrop : ((c :: front ++ '/' :: back).map clean).drop 1 =
        front.map clean ++ '/' :: back.map clean := by
      simp [clean, isSlash]
    exact (congrArg (List.splitOn '/') hdrop).trans (List.splitOn_append_cons_self _ _)

/-- What is put behind a slash leads somewhere from the place that the text before leads to. -/
theorem locate_through {site : Url} {front : List Char} (hfront : ∀ c ∈ front, endsPath c = false)
    (back : List Char) : (locate site (front ++ '/' :: back)).path =
      normalize (locate site (front ++ ['/'])).path.dropLast.reverse
        (segmentsOf ('/' :: (cutAt endsPath back).1)) := by
  have hcut (back : List Char) :
      (cutAt endsPath (front ++ '/' :: back)).1 = front ++ '/' :: (cutAt endsPath back).1 := by
    rw [cutAt_none hfront]
    rfl
  obtain ⟨before, hbefore⟩ := segmentsOf_through front
  have hpath (back : List Char) : (locate site (front ++ '/' :: back)).path =
      normalize (before.foldl passed []) (segmentsOf ('/' :: (cutAt endsPath back).1)) := by
    rw [locate, hcut, hbefore]
    exact normalize_append _ _ (segmentsOf_ne_nil _)
  have hdirectory : (locate site (front ++ ['/'])).path =
      (before.foldl passed []).reverse ++ [""] := by
    rw [hpath]
    exact normalize_stay (by decide)
  rw [hpath, hdirectory, List.dropLast_concat, List.reverse_reverse]

/-! ## Paths -/

/-- What is read of a path behind an address. -/
def readPath (cs : List Char) : List Char := (cutAt endsPath (trail cs)).1

theorem trail_slash (cs : List Char) : trail ('/' :: cs) = '/' :: trail cs := by
  have hdrop := dropEndWhile_through (show isEdgeBlank '/' = false by decide) [] cs
  rw [List.nil_append, List.nil_append] at hdrop
  rw [trail, hdrop, List.filter_cons_of_pos (by decide)]
  rfl

theorem readPath_slash (cs : List Char) :
    readPath ('/' :: cs) = '/' :: (cutAt endsPath (trail cs)).1 := by
  rw [readPath, trail_slash]
  rfl

theorem trail_sublist (cs : List Char) :
    List.Sublist (trail cs) (Text.dropEndWhile isEdgeBlank cs) :=
  List.filter_sublist

theorem dropEndWhile_sublist (p : Char → Bool) (cs : List Char) :
    List.Sublist (Text.dropEndWhile p cs) cs :=
  (List.rdropWhile_prefix p cs).sublist

theorem readPath_sublist (cs : List Char) : List.Sublist (readPath cs) (trail cs) :=
  List.takeWhile_sublist _

theorem trail_of_readPath {cs : List Char} (h : readPath cs = cs) : trail cs = cs := by
  have hread := readPath_sublist cs
  rw [h] at hread
  exact ((trail_sublist cs).trans (dropEndWhile_sublist _ cs)).antisymm hread

/-- Reading passes over nothing only of a text in which nothing is passed over. -/
theorem readPath_eq_self_iff {cs : List Char} : readPath cs = cs ↔
    Text.dropEndWhile isEdgeBlank cs = cs ∧ ∀ c ∈ cs, isKept c ∧ endsPath c = false := by
  constructor
  · intro h
    have htrail := trail_of_readPath h
    have hdrop := trail_sublist cs
    rw [htrail] at hdrop
    refine ⟨(dropEndWhile_sublist _ cs).antisymm hdrop, fun c hc => ⟨?_, ?_⟩⟩
    · rw [← htrail] at hc
      exact List.of_mem_filter hc
    · rw [← h] at hc
      simpa using List.mem_takeWhile_imp hc
  · rintro ⟨hdrop, hall⟩
    have htrail : trail cs = cs := by
      rw [trail, hdrop]
      exact List.filter_eq_self.mpr fun c hc => (hall c hc).1
    rw [readPath, htrail]
    exact List.takeWhile_eq_self_iff.mpr fun c hc => by rw [(hall c hc).2]; rfl

/-! ## Below an address -/

namespace IsBase

variable {base path : String} {url : Url} {cs : List Char}

/-- What a path behind an address leads to. -/
theorem parse?_below (h : IsBase base url) (hpath : path.toList = '/' :: cs) :
    ∃ found, parse? (base ++ path) = some found ∧ found.origin = url.origin ∧
      found.path = normalize url.path.dropLast.reverse (segmentsOf (readPath path.toList)) ∧
      (readPath path.toList = path.toList → found.query = none) := by
  have hslash : "/".toList = ['/'] := by simp
  have hparsed := (parse?_slash hslash).symm.trans h.parsed
  rw [trail_nil] at hparsed
  obtain ⟨⟨site, rest⟩, hsite, rfl⟩ := Option.map_eq_some_iff.mp hparsed
  obtain ⟨front, rfl, hserver⟩ := site?_of_slash hsite
  have hfront : ∀ c ∈ front, endsPath c = false := fun c hc =>
    locate_all h.query h.fragment c (List.mem_append_left _ hc)
  rw [hpath, readPath_slash]
  refine ⟨locate site (front ++ '/' :: trail cs), ?_, rfl, locate_through hfront _, fun hall => ?_⟩
  · rw [parse?_slash hpath, site?_append hserver]
    rfl
  · have hself := (readPath_slash cs).trans hall
    have htrail : trail cs = cs := by
      have hslash := trail_of_readPath hself
      rw [trail_slash] at hslash
      exact (List.cons.inj hslash).2
    have hends := (readPath_eq_self_iff.mp hself).2
    rw [htrail]
    exact (locate_path (List.forall_mem_append.mpr ⟨hfront, fun c hc => (hends c hc).2⟩)).1

/-- Every path behind a URL without query and fragment is below it, unless no path can be put there:
a blank at the end of its text may become part of a name that no server has. -/
theorem of_parse? {root : Url} (h : parse? base = some root) (hquery : root.query = none)
    (hfragment : root.fragment = none) :
    (∃ url, IsBase base url) ∨
      ∀ path cs, path.toList = '/' :: cs → parse? (base ++ path) = none := by
  rw [parse?_eq] at h
  obtain ⟨⟨site, rest⟩, hsite, rfl⟩ := Option.map_eq_some_iff.mp h
  obtain ⟨blanks, hlead, hblanks⟩ := lead_eq base
  obtain ⟨found, hread, hfound⟩ := site?_blanks hsite (locate_all hquery hfragment) hblanks
  have hparse {path : String} {cs : List Char} (hpath : path.toList = '/' :: cs) :
      parse? (base ++ path) = found.map fun f => locate f.1 (f.2 ++ '/' :: trail cs) := by
    rw [parse?_slash hpath, hlead, hread, Option.map_map]
    rfl
  cases found with
  | none => exact .inr fun path cs hpath => hparse hpath
  | some f =>
    have hall : ∀ c ∈ f.2 ++ ['/'], endsPath c = false := by
      refine List.forall_mem_append.mpr ⟨hfound f rfl, fun c hc => ?_⟩
      obtain rfl := List.mem_singleton.mp hc
      rfl
    have hslash : "/".toList = ['/'] := by simp
    have hparsed := hparse hslash
    rw [Option.map_some, trail_nil] at hparsed
    exact .inl ⟨_, hparsed, (locate_path hall).1, (locate_path hall).2⟩

end IsBase

end ClientForge.Http.Url
