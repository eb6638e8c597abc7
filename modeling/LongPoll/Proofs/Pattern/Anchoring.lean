import LongPoll.Channel.Catalogue
import LongPoll.Proofs.Pattern.Continuation
import LongPoll.Proofs.Pattern.Matching
import Mathlib.Data.List.Forall2
/-!
# Anchored patterns

A catalogue anchors the pattern of a rule by writing `^(?:` before it and `)$` behind it. If the
pattern can be read by itself, the anchored text, if it is accepted, reads as the same expression
between two anchors, so that the rule applies exactly to the channels whose whole name the pattern
matches.

Reading goes the same way in the group around the pattern as it does outside of it, only with the
frame of the first anchor at the bottom of the stack (`Reading.within`). Flags that the pattern
turns on end with it, because the frame of the whole pattern returns to none (`Reading.Rooted`).

Catalogues do not check that the pattern can be read by itself. One that closes the group around it
and opens another breaks out of the anchors.

* `Pattern.parse?_anchored`: what an anchored pattern is read as.
* `Catalogue.valid_pattern_matches_whole_name`: the rules of an accepted catalogue.
* `Catalogue.stray_parenthesis_accepted`: a pattern that cannot be read by itself.
-/

namespace LongPoll.Pattern

/-- The frame around an anchored pattern: the anchor before it has been read. -/
def Frame.anchor : Frame := (Frame.start {} false).push (some ⟨.look .textStart, 0⟩)

/-! ### Reading token by token -/

namespace Reading

variable {s s' t : Reading} {cs cs' : List Char} {n n' : Nat}

/-- One token is read, taken in and read on from. -/
theorem run?_step {token : Token} {rest : List Char}
    (htoken : token? s.flags (skip s.flags.verbose cs) = some (token, rest))
    (htake : s.take? token = some s') : run? (n + 1) s cs = run? n s' rest := by
  rw [run?]
  cases hskip : skip s.flags.verbose cs with
  | nil =>
    rw [hskip] at htoken
    cases htoken
  | cons c ds =>
    rw [hskip] at htoken
    simp only [htoken, htake, Option.bind_eq_bind, Option.bind_some]

/-- Without any steps left, reading ends if only what is skipped is left. -/
theorem run?_zero (h : run? 0 s cs = some t) : skip s.flags.verbose cs = [] ∧ t = s := by
  simp only [run?] at h
  split at h
  next hnil =>
    cases h
    exact ⟨List.isEmpty_iff.mp hnil, rfl⟩
  next => cases h

/-- With a step left, reading ends likewise, or a token is read and taken in. -/
theorem run?_succ (h : run? (n + 1) s cs = some t) : skip s.flags.verbose cs = [] ∧ t = s ∨
    ∃ token rest s', token? s.flags (skip s.flags.verbose cs) = some (token, rest) ∧
      s.take? token = some s' ∧ run? n s' rest = some t := by
  simp only [run?] at h
  split at h
  next hnil =>
    cases h
    exact Or.inl ⟨hnil, rfl⟩
  next =>
    obtain ⟨⟨token, rest⟩, htoken, h⟩ := Option.bind_eq_some_iff.mp h
    obtain ⟨s', htake, h⟩ := Option.bind_eq_some_iff.mp h
    exact Or.inr ⟨token, rest, s', htoken, htake, h⟩

/-- No comment starts with the closing. -/
theorem skip_closing (verbose : Bool) : skip verbose closing = closing := by
  cases verbose <;> rfl

/-! ### In the group around the pattern -/

/-- The same reading in the group that the pattern is anchored in. -/
def within (s : Reading) : Reading := { s with stack := s.stack ++ [Frame.anchor] }

/-- A token that fits does the same to the frames of the pattern, whatever is below them. -/
theorem take?_within {token : Token} (h : s.take? token = some s') :
    s.within.take? token = some s'.within := by
  cases token with
  | atom r depth =>
    cases h
    rfl
  | times least most =>
    -- a repetition needs something in the frame to repeat, which is the same frame
    simp only [take?] at h
    split at h
    next p items hitems =>
      cases h
      simp only [take?, within, hitems]
    next => cases h
  | bar =>
    cases h
    rfl
  | opening flags captures name =>
    cases name with
    | none =>
      cases h
      rfl
    | some name =>
      simp only [take?] at h
      split at h
      · cases h
      -- names are counted over the whole text
      next hnew =>
        cases h
        exact if_neg hnew
  | closing =>
    simp only [take?] at h
    split at h
    -- a group of the pattern itself is closed, since one was open
    next outer stack hstack =>
      cases h
      simp only [take?, within, hstack, List.cons_append]
    next => cases h
  | setFlags flags =>
    cases h
    rfl

/-- The last of the frames, that of the whole pattern, returns to no flags and does not capture. -/
def Rooted : Frame → List Frame → Prop
  | f, [] => f.outer = {} ∧ f.captures = false
  | _, g :: fs => Rooted g fs

/-- Whether the last frame is rooted depends on what it returns to and whether it captures. -/
theorem Rooted.of_alike {f g : Frame} {fs : List Frame} (h : Rooted f fs)
    (houter : g.outer = f.outer) (hcaptures : g.captures = f.captures) : Rooted g fs := by
  cases fs with
  | nil => exact ⟨houter.trans h.1, hcaptures.trans h.2⟩
  | cons f fs => exact h

/-- Taking a token in leaves the last frame rooted. -/
theorem Rooted.take? {token : Token} (hs : Rooted s.frame s.stack) (h : s.take? token = some s') :
    Rooted s'.frame s'.stack := by
  -- each token changes the frame, and only groups change the stack
  cases token with
  | atom r depth =>
    cases h
    exact hs.of_alike rfl rfl
  | times least most =>
    simp only [Reading.take?] at h
    split at h
    · cases h
      exact hs.of_alike rfl rfl
    · cases h
  | bar =>
    cases h
    exact hs.of_alike rfl rfl
  | opening flags captures name =>
    cases name with
    | none =>
      cases h
      exact hs
    | some name =>
      simp only [Reading.take?] at h
      split at h
      · cases h
      · cases h
        exact hs
  | closing =>
    simp only [Reading.take?] at h
    split at h
    next outer stack hstack =>
      cases h
      -- closing a group goes back to the frame around it
      rw [hstack] at hs
      exact Rooted.of_alike (f := outer) hs rfl rfl
    next => cases h
  | setFlags flags =>
    cases h
    exact hs.of_alike rfl rfl

/-- Reading on leaves the last frame rooted. -/
theorem Rooted.run? (hs : Rooted s.frame s.stack) (h : run? n s cs = some t) :
    Rooted t.frame t.stack := by
  induction n generalizing s cs with
  | zero =>
    obtain ⟨-, rfl⟩ := run?_zero h
    exact hs
  | succ n ih =>
    obtain ⟨-, rfl⟩ | ⟨token, rest, s', -, htake, hrun⟩ := run?_succ h
    · exact hs
    · exact ih (hs.take? htake) hrun

/-- Where the pattern ends, the group around it either is left open or is about to be closed. -/
theorem run?_within_end (hnil : skip s.flags.verbose cs = []) (hcs : Behind cs cs') :
    run? (n + 2) s.within cs' = some s.within ∨
      run? (n + 2) s.within cs' = run? (n + 2) s.within closing := by
  have hskip := hcs.skip s.flags.verbose
  rw [hnil] at hskip
  refine hskip.nil_cases.imp (fun hrest => ?_) fun hrest => ?_
  · simp only [run?, within, hrest]
  · simp only [run?, within, hrest, skip_closing]

/-- What is read of the pattern is read in the group around it, up to where the pattern ends. -/
theorem run?_within (h : run? n s cs = some t) (hcs : Behind cs cs') (hn : n ≤ n') :
    run? (n' + 2) s.within cs' = some t.within ∨
      ∃ m, run? (n' + 2) s.within cs' = run? (m + 2) t.within closing := by
  -- By induction on the tokens of the pattern, two fewer than there is room for around it.
  induction n generalizing n' s cs cs' with
  | zero =>
    obtain ⟨hnil, rfl⟩ := run?_zero h
    exact (run?_within_end hnil hcs).imp_right fun h => ⟨_, h⟩
  | succ n ih =>
    obtain ⟨hnil, rfl⟩ | ⟨token, rest, s', htoken, htake, hrun⟩ := run?_succ h
    · exact (run?_within_end hnil hcs).imp_right fun h => ⟨_, h⟩
    · obtain ⟨n', rfl⟩ := Nat.exists_eq_add_one.mpr (Nat.lt_of_lt_of_le n.succ_pos hn)
      obtain ⟨rest', htoken', hrest⟩ := agrees_token? (hcs.skip s.flags.verbose) _ _ htoken
      have hstep : run? (n' + 1 + 2) s.within cs' = run? (n' + 2) s'.within rest' :=
        run?_step htoken' (take?_within htake)
      rw [hstep]
      exact ih hrun hrest (Nat.le_of_succ_le_succ hn)

/-! ### Closing the group -/

/-- The whole text as it is read once its pattern has been. -/
def closed (s : Reading) : Reading :=
  let whole := s.frame.alternatives
  let frame := (Frame.anchor.push (some ⟨whole.regex, whole.depth + 1⟩)).push
    (some ⟨.look .textEnd, 0⟩)
  ⟨{}, frame, [], s.names⟩

/-- Closing the group of a pattern whose own groups are closed adds the pattern to the first anchor,
and restores the flags under which the last one is read. -/
theorem run?_closing (hs : Rooted s.frame s.stack) (hstack : s.stack = []) :
    run? (n + 2) s.within closing = some s.closed := by
  rw [hstack] at hs
  obtain ⟨houter, hcaptures⟩ := hs
  -- the flags of the pattern end with its frame
  have hclose : s.within.take? .closing = some
      ⟨{}, Frame.anchor.push (some ⟨s.frame.alternatives.regex, s.frame.alternatives.depth + 1⟩),
        [], s.names⟩ := by
    simp only [take?, within, hstack, List.nil_append, houter, hcaptures]
    rfl
  have hparenthesis : token? s.within.flags (skip s.within.flags.verbose closing) =
      some (.closing, ['$']) := by
    rw [skip_closing]
    rfl
  rw [run?_step hparenthesis hclose, run?_step rfl rfl]
  cases n <;> rfl

/-- A reading that ends has closed its groups, and is what is left in the frame. -/
theorem finish?_some {r : Regex} (h : s.finish? = some r) :
    s.stack = [] ∧ r = s.frame.alternatives.regex := by
  unfold finish? at h
  split at h
  next hstack =>
    dsimp only at h
    split at h
    · exact ⟨hstack, (Option.some.inj h).symm⟩
    · cases h
  next => cases h

end Reading

/-- An accepted anchored pattern that can be read by itself is what is read between the anchors. -/
theorem parse?_anchored {p : String} {w r : Regex} (hw : parse? (anchored p) = some w)
    (hr : parse? p = some r) : w = .seq (.seq (.look .textStart) r) (.look .textEnd) := by
  have htext : (anchored p).toList = '^' :: '(' :: '?' :: ':' :: (p.toList ++ closing) := by
    simp [anchored, closing]
  have hlength : (anchored p).toList.length = p.toList.length + 2 + 2 + 2 := by
    simp [htext, closing]
  -- The first two tokens are the anchor and the start of the group.
  have hopen : ∀ n,
      Reading.start.run? (n + 2) ('^' :: '(' :: '?' :: ':' :: (p.toList ++ closing)) =
      Reading.start.within.run? n (p.toList ++ closing) := fun n => rfl
  obtain ⟨t, hrun, hfinish⟩ := Option.bind_eq_some_iff.mp hr
  obtain ⟨t', hrun', hfinish'⟩ := Option.bind_eq_some_iff.mp hw
  rw [hlength, htext, hopen] at hrun'
  obtain ⟨hstack, rfl⟩ := Reading.finish?_some hfinish
  obtain ⟨hstack', rfl⟩ := Reading.finish?_some hfinish'
  obtain hleft | ⟨m, hclosed⟩ :=
    Reading.run?_within hrun (.append _) (Nat.le_add_right p.toList.length 2)
  · -- A comment has taken the closing, and the group around the pattern is left open.
    rw [hleft] at hrun'
    cases hrun'
    simp [Reading.within] at hstack'
  · have hstart : Reading.Rooted Reading.start.frame Reading.start.stack := ⟨rfl, rfl⟩
    have hrooted : Reading.Rooted t.frame t.stack := hstart.run? hrun
    rw [hclosed, Reading.run?_closing hrooted hstack] at hrun'
    cases hrun'
    rfl

end LongPoll.Pattern

namespace LongPoll.Catalogue

/-! ### Rules of accepted catalogues -/

/-- A rule that is accepted applies to the names that its pattern matches, if it can be read by
itself. -/
theorem readRule_appliesTo {index : Nat} {rule : ChannelRule} {e : CatalogueEntry}
    (h : readRule index rule = .ok e) {r : Regex} (hr : Pattern.parse? rule.pattern = some r)
    (id : ChannelId) : e.appliesTo id = true ↔ r.MatchesWhole id.text := by
  unfold readRule at h
  split at h
  next w hw =>
    obtain rfl := Except.ok.inj h
    rw [CatalogueEntry.appliesTo, Pattern.parse?_anchored hw hr]
    exact Regex.foundIn_between_iff
  next => cases h

/-- The entries of an accepted catalogue are its rules, read one by one. -/
theorem forall₂_readRules {index : Nat} {rules : List ChannelRule} {entries : List CatalogueEntry}
    (h : readRules index rules = .ok entries) :
    List.Forall₂ (fun rule e => ∃ index, readRule index rule = .ok e) rules entries := by
  induction rules generalizing index entries with
  | nil =>
    cases h
    exact .nil
  | cons rule rules ih =>
    rw [readRules] at h
    -- reading stops at the first rule that is not accepted
    split at h
    · cases h
    next e he =>
      split at h
      · cases h
      next entries' hentries =>
        cases h
        exact .cons ⟨index, he⟩ (ih hentries)

/-- In an accepted catalogue a rule whose pattern can be read by itself applies exactly to the
channels whose whole name the pattern matches. -/
theorem valid_pattern_matches_whole_name {rules : List ChannelRule} {c : Catalogue}
    (h : ofRules rules = .ok c) : List.Forall₂ (fun rule e => ∀ r,
      Pattern.parse? rule.pattern = some r →
        ∀ id, e.appliesTo id = true ↔ r.MatchesWhole id.text) rules c.entries := by
  unfold ofRules at h
  split at h
  · cases h
  next entries hentries =>
    cases h
    exact (forall₂_readRules hentries).imp fun rule e ⟨index, he⟩ r hr => readRule_appliesTo he hr

/-- Accepted rules make a catalogue. -/
theorem ofRules_of_isOk {rules : List ChannelRule} (h : (ofRules rules).isOk = true) :
    ofRules rules = .ok ((ofRules rules).toOption.getD ⟨[]⟩) := by
  cases hresult : ofRules rules with rw [hresult] at h
  | error e => cases h
  | ok c => rfl

namespace Sample

/-- The news and numbered chats, and rooms by a pattern with a comment. -/
def namedRules : List ChannelRule :=
  [⟨"news|chat-[0-9]+", .seconds 60, none⟩, ⟨"(?ix) room-.+  # any room\n", .seconds 10, none⟩]

/-- The rules with their patterns read. -/
def namedCatalogue : Catalogue := (ofRules namedRules).toOption.getD ⟨[]⟩

/-- A numbered chat. -/
def chat : ChannelId := ⟨"chat-12", by decide +kernel⟩

/-- A name with that of a channel in it. -/
def oldNews : ChannelId := ⟨"old-news", by decide +kernel⟩

/-- A rule whose pattern closes a group that it does not open, and opens one that it does not
close. -/
def strayRule : ChannelRule := ⟨"a)|(?:b", .seconds 60, none⟩

/-- A name that starts with what the rule is about. -/
def longer : ChannelId := ⟨"ax", by decide +kernel⟩

end Sample

/-- A numbered chat has the first rule, and a name with that of a channel in it has not. -/
theorem valid_pattern_matches_whole_name_chat :
    ofRules Sample.namedRules = .ok Sample.namedCatalogue ∧
    ∃ r, Pattern.parse? "news|chat-[0-9]+" = some r ∧ r.MatchesWhole Sample.chat.text ∧
      ¬ r.MatchesWhole Sample.oldNews.text := by
  have haccepted : ofRules Sample.namedRules = .ok Sample.namedCatalogue :=
    ofRules_of_isOk (by decide +kernel)
  have hvalid : (Pattern.parse? "news|chat-[0-9]+").isSome = true := by decide +kernel
  -- the entry of the first rule is found through the general statement
  obtain ⟨r, hr⟩ := Option.isSome_iff_exists.mp hvalid
  obtain ⟨e, entries, hwhole, -, hentries⟩ :=
    List.forall₂_cons_left_iff.mp (valid_pattern_matches_whole_name haccepted)
  -- what the entry applies to can be computed
  have hchat : Sample.namedCatalogue.entries.head?.map (·.appliesTo Sample.chat) = some true := by
    decide +kernel
  have holdNews : Sample.namedCatalogue.entries.head?.map (·.appliesTo Sample.oldNews) =
      some false := by
    decide +kernel
  rw [hentries] at hchat holdNews
  refine ⟨haccepted, r, hr, (hwhole r hr _).mp (Option.some.inj hchat), fun h => ?_⟩
  exact Bool.false_ne_true ((Option.some.inj holdNews).symm.trans ((hwhole r hr _).mpr h))

/-- A pattern that cannot be read by itself is accepted, and applies to a name that merely starts
with what one half of it stands for. -/
theorem stray_parenthesis_accepted : ∃ c, ofRules [Sample.strayRule] = .ok c ∧
    Pattern.parse? Sample.strayRule.pattern = none ∧
    ∃ e ∈ c.entries, e.appliesTo Sample.longer = true := by
  have hinvalid : (Pattern.parse? Sample.strayRule.pattern).isNone = true := by decide +kernel
  have happlies : ((ofRules [Sample.strayRule]).toOption.getD ⟨[]⟩).entries.any
      (·.appliesTo Sample.longer) = true := by
    decide +kernel
  exact ⟨_, ofRules_of_isOk (by decide +kernel), Option.isNone_iff_eq_none.mp hinvalid,
    List.any_eq_true.mp happlies⟩

end LongPoll.Catalogue
