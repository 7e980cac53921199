import Cathedral.Lib.Guarded
import Cathedral.Lib.Lru
import Cathedral.Lib.PyFloat
import Cathedral.Publisher.Graders

/-!
# Cathedral.Publisher.InstanceCaches — the caches of the per-miner generator

`generate_instance` draws the formula of a slot `(hotkey, epoch, tier, seq)`; it reads the
seed secret, the source, the shape and the method from the environment. `_gen_cached`
remembers planted formulas under the slot, the method and the shape, `item_meta` what a
challenge page needs under the slot alone. `v2_pm_env` swaps part of the environment for a
while.
-/

namespace Cathedral.Publisher.InstanceCaches

open PyStr Memo

/-! ## The environment -/

structure Environ where
  vars : Dict String PyStr
  /-- The regular files of a directory with their texts; `none` where reading raises. -/
  files : PyStr → Option (List (String × Option String))

/-- `_seed_secret_bytes`: a configured text, or the bytes drawn when the process started. -/
inductive Secret where
  | configured (text : String)
  | ephemeral
deriving DecidableEq, Repr

/-- How clauses are planted. -/
inductive Method where
  | biased
  | ajm
deriving DecidableEq, Repr

/-- What the generator calls: hashes, the random generators and the conversions of the
standard library. A raise is `none`. -/
structure Primitives where
  tables : UnicodeTables
  lower : PyStr → PyStr
  floatOf : PyStr → Option PyFloat
  hmacSha256Hex : Secret → String → String
  sha256Hex : String → String
  genPlanted3sat : (seed : ℕ) → (nVars nClauses : ℤ) → Method → Option (String × List ℤ)
  genGraphColoring : (seed : ℕ) → (nNodes kColors : ℤ) → Option String
  genLatinSquare : (seed : ℕ) → (order : ℤ) → Option String
  /-- `n / 1_000_000.0`. -/
  millionths : ℕ → ℚ

/-- A slot of a miner's allotment. -/
structure Slot where
  hotkey : String
  epoch : ℤ
  tier : ℤ
  seq : ℤ
deriving DecidableEq, Repr

/-- `f"{label}{hotkey}:{epoch}:{tier}:{seq}"`. -/
def Slot.text (slot : Slot) (label : String) : String :=
  label ++ slot.hotkey ++ ":" ++ toString slot.epoch ++ ":" ++ toString slot.tier ++ ":" ++
    toString slot.seq

namespace Environ

/-- `os.environ.get(name, "").strip()`. -/
def text (env : Environ) (name : String) : PyStr := strip ((env.vars.get? name).getD [])

def truthy (prim : Primitives) (env : Environ) (name : String) : Bool :=
  ([ofString "1", ofString "true", ofString "yes", ofString "on"]).contains
    (prim.lower (env.text name))

/-- `_env_int`. -/
def int (prim : Primitives) (env : Environ) (name : String) (default : ℤ) : ℤ :=
  if env.text name = [] then default else (int? prim.tables (env.text name)).getD default

end Environ

def seedSecretEnvs : List String :=
  ["CATHEDRAL_PERMINER_SEED_SECRET", "CATHEDRAL_REFILL_SEED_SECRET",
    "CATHEDRAL_PUBLISHER_SEED_SECRET"]

/-- `_seed_secret_bytes`; `none` when it raises. -/
def seedSecret (prim : Primitives) (env : Environ) : Option Secret :=
  match (seedSecretEnvs.map env.text).find? (· ≠ []) with
  | some raw => (encode? raw).map Secret.configured
  | none => if env.truthy prim "CATHEDRAL_PERMINER_ENABLED" then none else some .ephemeral

def methodFor (prim : Primitives) (env : Environ) (tier : ℤ) : Method :=
  let raw := prim.lower (env.text ("CATHEDRAL_PERMINER_METHOD_T" ++ toString tier))
  if raw = ofString "biased" then .biased
  else if raw = ofString "ajm" then .ajm
  else if tier = 1 then .biased else .ajm

/-- `_TIER_SHAPE`, with its default. -/
def tierShape (tier : ℤ) : ℤ × ℤ := if tier = 1 ∨ tier = 2 then (400, 1704) else (6000, 25560)

def shapeFor (prim : Primitives) (env : Environ) (tier : ℤ) : ℤ × ℤ :=
  (env.int prim ("CATHEDRAL_PERMINER_NVARS_T" ++ toString tier) (tierShape tier).1,
    env.int prim ("CATHEDRAL_PERMINER_NCLAUSES_T" ++ toString tier) (tierShape tier).2)

def allotmentFor (prim : Primitives) (env : Environ) (tier : ℤ) : ℤ :=
  max 1 (env.int prim ("CATHEDRAL_PERMINER_ALLOTMENT_T" ++ toString tier) 10000)

def tiers : List ℤ := [1, 2]

/-! ## Seeds and ids -/

def hexDigit (c : Char) : ℕ := if c.isDigit then c.toNat - 48 else c.toNat - 87

/-- `int(digest[:n], 16)`. -/
def hexPrefix (digest : String) (n : ℕ) : ℕ :=
  (digest.toList.take n).foldl (fun value c => 16 * value + hexDigit c) 0

def instanceSeed (prim : Primitives) (secret : Secret) (slot : Slot) : ℕ :=
  hexPrefix (prim.hmacSha256Hex secret (slot.text "seed:")) 16 % 2 ^ 63

/-- `instance_id`; `none` when there is no secret. -/
def instanceId (prim : Primitives) (env : Environ) (slot : Slot) : Option String :=
  (seedSecret prim env).map fun secret =>
    "pm-t" ++ toString slot.tier ++ "-e" ++ toString slot.epoch ++ "-" ++
      String.ofList ((prim.hmacSha256Hex secret (slot.text "id:")).toList.take 24)

def realSeed (prim : Primitives) (slot : Slot) (salt : String) : ℕ :=
  hexPrefix (prim.sha256Hex ("real:" ++ salt ++ ":" ++ toString slot.epoch ++ ":" ++
    toString slot.tier ++ ":" ++ toString slot.seq)) 16 % 2 ^ 63

/-! ## Which source -/

inductive ChallengeSource where
  | planted
  | combinatorial
  | corpus
deriving DecidableEq, Repr

def challengeSource (prim : Primitives) (env : Environ) : ChallengeSource :=
  let raw := prim.lower (env.text "CATHEDRAL_V2_CHALLENGE_SOURCE")
  if raw = ofString "combinatorial" then .combinatorial
  else if raw = ofString "corpus" then .corpus
  else .planted

/-- `min(1.0, max(0.0, x))`. -/
def clampUnit : PyFloat → ℚ
  | .finite x => min 1 (max 0 x)
  | .posInf => 1
  | .negInf | .nan => 0

def realFraction (prim : Primitives) (env : Environ) : ℚ :=
  let raw := env.text "CATHEDRAL_V2_REAL_FRACTION"
  match if raw = [] then none else prim.floatOf raw with
  | some x => clampUnit x
  | none => if challengeSource prim env ≠ .planted then 1 else 0

def realPick (prim : Primitives) (slot : Slot) : ℚ :=
  prim.millionths (hexPrefix (prim.sha256Hex (slot.text "realpick:")) 8 % 1000000)

def usesRealInstance (prim : Primitives) (env : Environ) (slot : Slot) : Bool :=
  let frac := realFraction prim env
  decide (1 ≤ frac ∨ (0 < frac ∧ realPick prim slot < frac))

/-- What an instance is drawn from, besides the slot and the secret. -/
inductive Draw where
  | planted (method : Method) (nVars nClauses : ℤ)
  | coloring (nNodes kColors : ℤ)
  | latin (order : ℤ)
  /-- A file of the corpus; `none` where reading raises. -/
  | corpus (text : Option String)
deriving DecidableEq, Repr

/-- `_corpus_files`: the formulas of a directory, by name. -/
def corpusFiles (prim : Primitives) (files : List (String × Option String)) :
    List (String × Option String) :=
  (files.filter fun file =>
    (ofString ".cnf").isSuffixOf (prim.lower (ofString file.1)) ||
      (ofString ".dimacs").isSuffixOf (prim.lower (ofString file.1))).insertionSort
    fun a b => a.1 ≤ b.1

/-- `load_corpus_instance`: the text of the selected file, or `none` without a corpus. -/
def loadCorpus (prim : Primitives) (env : Environ) (slot : Slot) : Option (Option String) :=
  let directory := env.text "CATHEDRAL_V2_CORPUS_DIR"
  if directory = [] then none
  else
    (env.files directory).bind fun files =>
      let formulas := corpusFiles prim files
      (formulas[realSeed prim slot ("corpus:" ++ slot.hotkey) % formulas.length]?).map Prod.snd

def coloringShapeFor (prim : Primitives) (env : Environ) (tier : ℤ) : ℤ × ℤ :=
  let base : ℤ × ℤ := if tier = 1 then (12, 3) else if tier = 2 then (16, 3) else (8, 3)
  (max 2 (env.int prim ("CATHEDRAL_V2_COLORING_NODES_T" ++ toString tier) base.1),
    max 2 (env.int prim ("CATHEDRAL_V2_COLORING_COLORS_T" ++ toString tier) base.2))

def latinShapeFor (prim : Primitives) (env : Environ) (tier : ℤ) : ℤ :=
  max 2 (env.int prim ("CATHEDRAL_V2_LATIN_ORDER_T" ++ toString tier)
    (if tier = 1 ∨ tier = 2 then 5 else 4))

/-- `kind_for`: whether an instance is a colouring. -/
def isColoring (prim : Primitives) (env : Environ) (slot : Slot) : Bool :=
  let raw := prim.lower (env.text "CATHEDRAL_V2_COMBINATORIAL_KIND")
  if raw = ofString "coloring" then true
  else if raw = ofString "latin" then false
  else decide (realSeed prim slot ("kind:" ++ slot.hotkey) % 2 = 0)

/-- The settings of `generate_combinatorial_instance`. -/
def combinatorialDraw (prim : Primitives) (env : Environ) (slot : Slot) : Draw :=
  if isColoring prim env slot then
    .coloring (coloringShapeFor prim env slot.tier).1 (coloringShapeFor prim env slot.tier).2
  else .latin (latinShapeFor prim env slot.tier)

/-- The settings of `generate_real_instance`: without a corpus it falls back. -/
def realDraw (prim : Primitives) (env : Environ) (slot : Slot) : Draw :=
  if challengeSource prim env = .corpus then
    match loadCorpus prim env slot with
    | some text => .corpus text
    | none => combinatorialDraw prim env slot
  else combinatorialDraw prim env slot

/-- The source that `generate_instance` chooses, with its settings. -/
def drawFor (prim : Primitives) (env : Environ) (slot : Slot) : Draw :=
  if usesRealInstance prim env slot then realDraw prim env slot
  else
    .planted (methodFor prim env slot.tier) (shapeFor prim env slot.tier).1
      (shapeFor prim env slot.tier).2

/-- The text of an instance that is not planted. -/
def realText (prim : Primitives) (slot : Slot) : Draw → Option String
  | .coloring nNodes kColors =>
    prim.genGraphColoring (realSeed prim slot ("coloring:" ++ slot.hotkey)) nNodes kColors
  | .latin order => prim.genLatinSquare (realSeed prim slot ("latin:" ++ slot.hotkey)) order
  | .corpus text => text
  | .planted _ _ _ => none

/-! ## The caches -/

/-- The arguments of `_gen_cached`. -/
structure GenKey where
  slot : Slot
  method : Method
  nVars : ℤ
  nClauses : ℤ
deriving DecidableEq, Repr

/-- What `generate_instance` returns. -/
structure Instance where
  challengeId : String
  cnfText : String
  planted : Option (List ℤ)
deriving DecidableEq, Repr

/-- What `item_meta` returns. -/
structure ItemMeta where
  challengeId : String
  cnfSha256 : String
  nVars : ℤ
  isReal : Bool
  cnfText : String
deriving DecidableEq, Repr

structure Caches where
  gen : Lru GenKey (String × List ℤ) Environ
  items : Lru Slot ItemMeta Environ

/-- A cache entry that a call used: its slot, and where it was computed. -/
inductive Hit where
  | gen (slot : Slot) (stored : Environ)
  | item (slot : Slot) (stored : Environ)

/-- The body of `_gen_cached`. -/
def genPlanted (prim : Primitives) (env : Environ) (key : GenKey) : Option (String × List ℤ) :=
  (seedSecret prim env).bind fun secret =>
    prim.genPlanted3sat (instanceSeed prim secret key.slot) key.nVars key.nClauses key.method

def genCached (prim : Primitives) (env : Environ) (key : GenKey) :
    Memo Caches Hit (String × List ℤ) :=
  memoize Caches.gen (fun caches gen => { caches with gen := gen }) 4096 env (Hit.gen key.slot) key
    (lift (genPlanted prim env key))

variable {σ η : Type}

/-- `generate_instance` over a way to draw planted formulas. -/
def generateWith (gen : GenKey → Memo σ η (String × List ℤ)) (prim : Primitives) (env : Environ)
    (slot : Slot) : Memo σ η Instance :=
  match drawFor prim env slot with
  | .planted method nVars nClauses =>
    bind (gen ⟨slot, method, nVars, nClauses⟩) fun drawn =>
      lift ((instanceId prim env slot).map fun cid => ⟨cid, drawn.1, some drawn.2⟩)
  | draw =>
    lift ((realText prim slot draw).bind fun text =>
      (instanceId prim env slot).map fun cid => ⟨cid, text, none⟩)

def generateInstance (prim : Primitives) (env : Environ) (slot : Slot) : Memo Caches Hit Instance :=
  generateWith (genCached prim env) prim env slot

/-- What `item_meta` derives from an instance; `none` where `parse_cnf` raises. -/
def metaOf (prim : Primitives) (inst : Instance) : Option ItemMeta :=
  (Graders.parseCnf prim.tables (ofString inst.cnfText)).map fun cnf =>
    ⟨inst.challengeId, prim.sha256Hex inst.cnfText, cnf.1, inst.planted.isNone, inst.cnfText⟩

/-- The body of `item_meta`. -/
def itemMetaWith (generate : Slot → Memo σ η Instance) (prim : Primitives) (slot : Slot) :
    Memo σ η ItemMeta :=
  bind (generate slot) fun inst => lift (metaOf prim inst)

def itemMeta (prim : Primitives) (env : Environ) (slot : Slot) : Memo Caches Hit ItemMeta :=
  memoize Caches.items (fun caches items => { caches with items := items }) 200000 env
    (Hit.item slot) slot (itemMetaWith (generateInstance prim env) prim slot)

/-! ## Verification -/

/-- `(ok, rejection_reason)`. -/
abbrev Verdict : Type := Bool × Option String

/-- The checks of `verify_miner_submission_for` on the instance of the slot. -/
def judge (prim : Primitives) (challengeId : String) (assignment : List ℤ) (inst : Instance) :
    Option Verdict :=
  if inst.challengeId ≠ challengeId then some (false, some "challenge_id_not_in_miner_set")
  else
    (Graders.verifyWitness prim.tables (ofString inst.cnfText) assignment).map fun ok =>
      if ok then (true, none) else (false, some "witness_check_failed")

/-- `verify_miner_submission_for`. -/
def verifyFor (generate : Slot → Memo σ η Instance) (prim : Primitives) (slot : Slot)
    (challengeId : String) (assignment : List ℤ) : Memo σ η Verdict :=
  bind (generate slot) fun inst => lift (judge prim challengeId assignment inst)

/-- The scan of `verify_miner_submission` over the allotment. -/
def scan (generate : Slot → Memo σ η Instance) (prim : Primitives) (challengeId : String)
    (assignment : List ℤ) : List Slot → Memo σ η Verdict
  | [] => lift (some (false, some "challenge_id_not_in_miner_set"))
  | slot :: rest =>
    bind (generate slot) fun inst =>
      if inst.challengeId = challengeId then verifyFor generate prim slot challengeId assignment
      else scan generate prim challengeId assignment rest

/-- The slots of a miner in an epoch. -/
def allotment (prim : Primitives) (env : Environ) (hotkey : String) (epoch : ℤ) : List Slot :=
  tiers.flatMap fun tier =>
    (List.range (allotmentFor prim env tier).toNat).map fun seq : ℕ => ⟨hotkey, epoch, tier, seq⟩

def verifyMinerSubmission (generate : Slot → Memo σ η Instance) (prim : Primitives) (env : Environ)
    (hotkey : String) (epoch : ℤ) (challengeId : String) (assignment : List ℤ) : Memo σ η Verdict :=
  if ("pm-".toList).isPrefixOf challengeId.toList then
    scan generate prim challengeId assignment (allotment prim env hotkey epoch)
  else lift (some (false, some "not_a_perminer_challenge"))

/-! ## Calls and switches -/

inductive Query where
  | generate (slot : Slot)
  | item (slot : Slot)
  | verifyFor (slot : Slot) (challengeId : String) (assignment : List ℤ)
  | verify (hotkey : String) (epoch : ℤ) (challengeId : String) (assignment : List ℤ)

inductive Answer where
  | drawn (value : Instance)
  | item (value : ItemMeta)
  | verdict (value : Verdict)
deriving DecidableEq

/-- A call, over a generator and an item function. -/
def Query.run (generate : Slot → Memo σ η Instance) (item : Slot → Memo σ η ItemMeta)
    (prim : Primitives) (env : Environ) : Query → Memo σ η Answer
  | .generate slot => bind (generate slot) fun value => lift (some (.drawn value))
  | .item slot => bind (item slot) fun value => lift (some (.item value))
  | .verifyFor slot challengeId assignment =>
    bind (InstanceCaches.verifyFor generate prim slot challengeId assignment) fun value =>
      lift (some (.verdict value))
  | .verify hotkey epoch challengeId assignment =>
    bind (verifyMinerSubmission generate prim env hotkey epoch challengeId assignment)
      fun value => lift (some (.verdict value))

/-- A call over the caches. -/
def Query.cached (q : Query) (prim : Primitives) (env : Environ) : Memo Caches Hit Answer :=
  q.run (generateInstance prim env) (itemMeta prim env) prim env

/-- The generator without its caches. -/
def uncached (prim : Primitives) (env : Environ) (slot : Slot) : Memo Unit Empty Instance :=
  generateWith (fun key => lift (genPlanted prim env key)) prim env slot

/-- A call without caches; `none` where it raises. -/
def Query.direct (q : Query) (prim : Primitives) (env : Environ) : Option Answer :=
  value (q.run (uncached prim env) (itemMetaWith (uncached prim env) prim) prim env)

def v2PmEnvMap : List (String × String) :=
  ["ENABLED", "SEED_SECRET", "EPOCH_HOURS", "MAX_PAGE_LIMIT", "ALLOTMENT_T1", "ALLOTMENT_T2",
    "WEIGHT_T1", "WEIGHT_T2", "METHOD_T1", "METHOD_T2", "NVARS_T1", "NVARS_T2", "NCLAUSES_T1",
    "NCLAUSES_T2"].map fun name => ("CATHEDRAL_PERMINER_" ++ name, "CATHEDRAL_V2_PERMINER_" ++ name)

/-- The start of `v2_pm_env`: the variables under their legacy names, and what they were. -/
def enterV2 (vars : Dict String PyStr) : Dict String PyStr × List (String × Option PyStr) :=
  v2PmEnvMap.foldl (fun (vars, old) (legacy, v2Name) =>
    match vars.get? v2Name with
    | some value => (vars.set legacy value, old ++ [(legacy, vars.get? legacy)])
    | none => (vars, old)) (vars, [])

def setVar (vars : Dict String PyStr) (name : String) : Option PyStr → Dict String PyStr
  | some value => vars.set name value
  | none => vars.filterItems fun other _ => other ≠ name

/-- The end of `v2_pm_env`. -/
def restore (vars : Dict String PyStr) (old : List (String × Option PyStr)) : Dict String PyStr :=
  old.foldl (fun vars entry => setVar vars entry.1 entry.2) vars

structure World where
  environ : Environ
  /-- What the open `v2_pm_env` blocks restore. -/
  saved : List (List (String × Option PyStr))
  /-- `_PM_ENV_PINNED`. -/
  pinned : Bool
  caches : Caches

inductive Action where
  | call (query : Query) (answer : Option Answer)
  | enter
  | exit
  | setEnv (name : String) (value : Option PyStr)
  | setFiles (files : PyStr → Option (List (String × Option String)))

/-- One call with what it answers, or a switch. -/
def next (prim : Primitives) (w : World) : Action → Option World
  | .call query answer =>
    let traced := query.cached prim w.environ w.caches
    if traced.result = answer then some { w with caches := traced.state } else none
  | .enter =>
    let (vars, old) := if w.pinned then (w.environ.vars, []) else enterV2 w.environ.vars
    some { w with environ := { w.environ with vars := vars }, saved := old :: w.saved }
  | .exit =>
    match w.saved with
    | [] => none
    | old :: saved =>
      some { w with
        environ := { w.environ with vars := restore w.environ.vars old }
        saved := saved }
  | .setEnv name value =>
    some { w with environ := { w.environ with vars := setVar w.environ.vars name value } }
  | .setFiles files => some { w with environ := { w.environ with files := files } }

abbrev Step (prim : Primitives) (w : World) (action : Action) (w' : World) : Prop :=
  next prim w action = some w'

/-- A call answers like the uncached functions in the environment in force. -/
def Right (prim : Primitives) (w : World) : Action → Prop
  | .call query answer => answer = query.direct prim w.environ
  | _ => True

/-- An entry was computed under the settings in force: the same secret, and for the items
the same source with the same settings. Without a secret planted instances raise anyway. -/
def Hit.Fresh (prim : Primitives) (now : Environ) : Hit → Prop
  | .gen _ stored => seedSecret prim now = none ∨ seedSecret prim stored = seedSecret prim now
  | .item slot stored =>
    seedSecret prim stored = seedSecret prim now ∧ drawFor prim stored slot = drawFor prim now slot

/-- Every entry that a call uses is fresh. -/
def FreshHits (prim : Primitives) (w : World) : Action → Prop
  | .call query _ => ∀ hit ∈ (query.cached prim w.environ w.caches).hits, hit.Fresh prim w.environ
  | _ => True

/-! ## Sound caches -/

variable {prim : Primitives} {env env' : Environ} {slot : Slot} {w w₀ : World}
variable {actions : List Action}

/-- What `item_meta` computes without caches. -/
def itemDirect (prim : Primitives) (env : Environ) (slot : Slot) : Option ItemMeta :=
  value (itemMetaWith (uncached prim env) prim slot)

/-- The entries are what was computed where they were stored. -/
structure Caches.Sound (prim : Primitives) (caches : Caches) : Prop where
  gen : caches.gen.Sound (genPlanted prim)
  items : caches.items.Sound (itemDirect prim)

/-- The secret is all that a planted formula takes from the environment. -/
theorem genPlanted_congr {key : GenKey} (h : seedSecret prim env = seedSecret prim env') :
    genPlanted prim env key = genPlanted prim env' key := by
  rw [genPlanted, genPlanted, h]

/-- The secret and the draw are all that an instance takes from the environment. -/
theorem uncached_congr (hsecret : seedSecret prim env = seedSecret prim env')
    (hdraw : drawFor prim env slot = drawFor prim env' slot) :
    uncached prim env slot = uncached prim env' slot := by
  have hid : instanceId prim env slot = instanceId prim env' slot := by
    rw [instanceId, instanceId, hsecret]
  have hgen : ∀ key, genPlanted prim env key = genPlanted prim env' key :=
    fun key => genPlanted_congr hsecret
  simp only [uncached, generateWith, hdraw, hid, hgen]

theorem itemDirect_congr (hsecret : seedSecret prim env = seedSecret prim env')
    (hdraw : drawFor prim env slot = drawFor prim env' slot) :
    itemDirect prim env slot = itemDirect prim env' slot := by
  rw [itemDirect, itemDirect, itemMetaWith, itemMetaWith, uncached_congr hsecret hdraw]

theorem sound_touch_gen {caches : Caches} {key : GenKey} {v : String × List ℤ} {o : Environ}
    (h : caches.Sound prim) (hfind : caches.gen.find? key = some (v, o)) :
    ({ caches with gen := caches.gen.touch key v o } : Caches).Sound prim :=
  ⟨Lru.sound_touch h.gen hfind, h.items⟩

theorem sound_store_gen {caches : Caches} {key : GenKey} {v : String × List ℤ}
    (h : caches.Sound prim) (hv : genPlanted prim env key = some v) :
    ({ caches with gen := caches.gen.store 4096 key v env } : Caches).Sound prim :=
  ⟨Lru.sound_store h.gen hv, h.items⟩

/-! ## Transparent calls -/

theorem genCached_transparent {key : GenKey} (hsecret : seedSecret prim env ≠ none) :
    Transparent (Caches.Sound prim) (Hit.Fresh prim env) (genCached prim env key)
      (genPlanted prim env key) := by
  refine transparent_memoize transparent_lift ?_ (fun _ _ _ => sound_touch_gen)
    (fun _ _ => sound_store_gen)
  intro caches v o hsound hfind hfresh
  rw [← Lru.sound_find? hsound.gen hfind]
  exact genPlanted_congr (hfresh.resolve_left hsecret)

theorem generateInstance_transparent : Transparent (Caches.Sound prim) (Hit.Fresh prim env)
    (generateInstance prim env slot) (value (uncached prim env slot)) := by
  unfold generateInstance uncached generateWith
  cases hdraw : drawFor prim env slot with
  | planted method nVars nClauses =>
    simp only [value_bind, value_lift]
    by_cases hsecret : seedSecret prim env = none
    · -- `instance_id` raises, also after a hit
      have hid : instanceId prim env slot = none := by rw [instanceId, hsecret, Option.map_none]
      have hnone : genPlanted prim env ⟨slot, method, nVars, nClauses⟩ = none := by
        rw [genPlanted, hsecret, Option.bind_none]
      rw [hnone, Option.bind_none, hid]
      exact transparent_raise
        (sound_memoize (fun _ _ _ => sound_touch_gen) fun _ _ => sound_store_gen) fun _ => rfl
    · exact transparent_bind (genCached_transparent hsecret) fun _ => transparent_lift
  | coloring _ _ | latin _ | corpus _ => exact transparent_lift

theorem itemMeta_transparent : Transparent (Caches.Sound prim) (Hit.Fresh prim env)
    (itemMeta prim env slot) (itemDirect prim env slot) := by
  refine transparent_memoize ?_ ?_ ?_ ?_
  · unfold itemDirect itemMetaWith
    rw [value_bind]
    exact transparent_bind generateInstance_transparent fun _ => transparent_lift
  · intro caches v o hsound hfind hfresh
    rw [← Lru.sound_find? hsound.items hfind]
    exact itemDirect_congr hfresh.1 hfresh.2
  · exact fun _ _ _ hsound hfind => ⟨hsound.gen, Lru.sound_touch hsound.items hfind⟩
  · exact fun _ _ hsound hv => ⟨hsound.gen, Lru.sound_store hsound.items hv⟩

theorem verifyFor_transparent {challengeId : String} {assignment : List ℤ} :
    Transparent (Caches.Sound prim) (Hit.Fresh prim env)
      (verifyFor (generateInstance prim env) prim slot challengeId assignment)
      (value (verifyFor (uncached prim env) prim slot challengeId assignment)) := by
  unfold verifyFor
  rw [value_bind]
  exact transparent_bind generateInstance_transparent fun _ => transparent_lift

theorem scan_transparent {challengeId : String} {assignment : List ℤ} (slots : List Slot) :
    Transparent (Caches.Sound prim) (Hit.Fresh prim env)
      (scan (generateInstance prim env) prim challengeId assignment slots)
      (value (scan (uncached prim env) prim challengeId assignment slots)) := by
  induction slots with
  | nil => exact transparent_lift
  | cons slot slots ih =>
    unfold scan
    rw [value_bind]
    refine transparent_bind generateInstance_transparent fun inst => ?_
    split
    · exact verifyFor_transparent
    · exact ih

theorem cached_transparent (query : Query) : Transparent (Caches.Sound prim) (Hit.Fresh prim env)
    (query.cached prim env) (query.direct prim env) := by
  unfold Query.cached Query.direct Query.run
  cases query with
  | generate slot =>
    rw [value_bind]
    exact transparent_bind generateInstance_transparent fun _ => transparent_lift
  | item slot =>
    rw [value_bind]
    exact transparent_bind itemMeta_transparent fun _ => transparent_lift
  | verifyFor slot challengeId assignment =>
    rw [value_bind]
    exact transparent_bind verifyFor_transparent fun _ => transparent_lift
  | verify hotkey epoch challengeId assignment =>
    rw [value_bind]
    refine transparent_bind ?_ fun _ => transparent_lift
    unfold verifyMinerSubmission
    split
    · exact scan_transparent _
    · exact transparent_lift

/-! ## Runs -/

/-- A process that has answered nothing yet, in any environment. -/
structure Start (w : World) : Prop where
  gen : w.caches.gen = Lru.empty
  items : w.caches.items = Lru.empty

theorem Start.sound (h : Start w) : w.caches.Sound prim := by
  constructor
  · rw [h.gen]
    exact Lru.sound_empty
  · rw [h.items]
    exact Lru.sound_empty

/-- A step with fresh hits keeps the caches sound and answers right. -/
theorem step_right {action : Action} {w' : World} (hsound : w.caches.Sound prim)
    (hstep : Step prim w action w') (hfresh : FreshHits prim w action) :
    w'.caches.Sound prim ∧ Right prim w action := by
  cases action with
  | call query answer =>
    obtain ⟨hanswer, ⟨⟩⟩ := Option.ite_none_right_eq_some.mp hstep
    obtain ⟨hdirect, hsound'⟩ := cached_transparent query w.caches hsound hfresh
    exact ⟨hsound', hanswer.symm.trans hdirect⟩
  | exit =>
    simp only [Step, next] at hstep
    split at hstep
    · cases hstep
    · cases hstep
      exact ⟨hsound, trivial⟩
  | enter | setEnv _ _ | setFiles _ =>
    cases hstep
    exact ⟨hsound, trivial⟩

/-- While every entry that a call uses was computed under the settings in force, every
call of the run answers like the uncached functions in the environment of that moment. -/
theorem right_when_fresh (hstart : Start w₀)
    (hrun : Run (Run.Guarded (Step prim) (FreshHits prim)) w₀ actions w) :
    Run (Run.Guarded (Step prim) (Right prim)) w₀ actions w := by
  have hboth : w.caches.Sound prim ∧ Run (Run.Guarded (Step prim) (Right prim)) w₀ actions w := by
    refine Run.history (P := fun actions w => w.caches.Sound prim ∧
      Run (Run.Guarded (Step prim) (Right prim)) w₀ actions w) ⟨hstart.sound, .nil⟩ ?_ hrun
    rintro actions t action u ⟨hsound, hright⟩ ⟨hstep, hfresh⟩
    obtain ⟨hsound', hanswer⟩ := step_right hsound hstep hfresh
    exact ⟨hsound', hright.snoc ⟨hstep, hanswer⟩⟩
  exact hboth.2

/-! ## Two secrets in one process -/

def sampleSlot : Slot := ⟨"5F", 1, 1, 0⟩

/-- What the hashes and the generator return for the sample slot under the secrets `v1`
and `v2`. -/
def samplePrimitives : Primitives where
  tables := Graders.asciiTables
  lower := id
  floatOf := fun _ => none
  hmacSha256Hex := fun secret message =>
    if message = "seed:5F:1:1:0" then
      if secret = .configured "v1" then
        "fd19c74ce3e38b3e56c776fb6b2ae644" ++
          "54cf197df6e018034ed5cec609866c57"
      else
        "7c3e1fd6045a23a37b963929227a3b4c" ++
          "2982fab20c243efc33077dcf6421fc60"
    else
      if secret = .configured "v1" then
        "e16a9f7d0c658e8e74506a8b1861bb6f" ++
          "04e2d31da2e577e948c40f23e12786d2"
      else
        "00ddac6d4e3cb5d8296726dd96ca7712" ++
          "f954059d20e067ae64ad1050be6f0bc5"
  sha256Hex := id
  genPlanted3sat := fun seed _ _ _ =>
    if seed = 9014455262213540670 then some ("p cnf 3 1\n1 -3 2 0\n", [-1, -2, -3])
    else some ("p cnf 3 1\n3 -1 2 0\n", [-1, -2, -3])
  genGraphColoring := fun _ _ _ => none
  genLatinSquare := fun _ _ => none
  millionths := fun n => n / 1000000

/-- The legacy surface under one secret, the V2 surface under another, with one shape. -/
def sampleWorld : World where
  environ :=
    { vars := Dict.ofList [("CATHEDRAL_PERMINER_SEED_SECRET", ofString "v1"),
        ("CATHEDRAL_V2_PERMINER_SEED_SECRET", ofString "v2"),
        ("CATHEDRAL_PERMINER_NVARS_T1", ofString "3"),
        ("CATHEDRAL_PERMINER_NCLAUSES_T1", ofString "1")]
      files := fun _ => none }
  saved := []
  pinned := false
  caches := ⟨Lru.empty, Lru.empty⟩

theorem sampleWorld_start : Start sampleWorld := ⟨rfl, rfl⟩

/-- The sample slot as drawn under the first secret. -/
def firstInstance : Instance where
  challengeId := "pm-t1-e1-e16a9f7d0c658e8e74506a8b"
  cnfText := "p cnf 3 1\n1 -3 2 0\n"
  planted := some [-1, -2, -3]

/-- The same slot is asked for twice under one secret. -/
def repeatedCall : List Action :=
  [.call (.generate sampleSlot) (some (.drawn firstInstance)),
    .call (.generate sampleSlot) (some (.drawn firstInstance))]

instance (prim : Primitives) (now : Environ) : DecidablePred (Hit.Fresh prim now)
  | .gen _ stored => inferInstanceAs (Decidable
      (seedSecret prim now = none ∨ seedSecret prim stored = seedSecret prim now))
  | .item slot stored => inferInstanceAs (Decidable (seedSecret prim stored = seedSecret prim now ∧
      drawFor prim stored slot = drawFor prim now slot))

instance (prim : Primitives) (w : World) : DecidablePred (FreshHits prim w)
  | .call query _ => inferInstanceAs (Decidable
      (∀ hit ∈ (query.cached prim w.environ w.caches).hits, hit.Fresh prim w.environ))
  | .enter | .exit | .setEnv _ _ | .setFiles _ => isTrue trivial

theorem repeatedCall_right : ∃ w, w.caches.gen.entries.length = 1 ∧
    Run (Run.Guarded (Step samplePrimitives) (Right samplePrimitives)) sampleWorld repeatedCall w := by
  have hnext : ∀ w action w', (if FreshHits samplePrimitives w action then
      next samplePrimitives w action else none) = some w' →
      Run.Guarded (Step samplePrimitives) (FreshHits samplePrimitives) w action w' := by
    intro w action w' h
    obtain ⟨hfresh, hstep⟩ := Option.ite_none_right_eq_some.mp h
    exact ⟨hstep, hfresh⟩
  obtain ⟨w, hrun, hentries⟩ := Run.exists_of_any hnext (s := sampleWorld) (r := repeatedCall)
    (p := fun w => w.caches.gen.entries.length = 1) (by decide +kernel)
  exact ⟨w, by simpa using hentries, right_when_fresh sampleWorld_start hrun⟩

/-- The slot is asked for under the legacy secret and then inside `v2_pm_env`. -/
def switchedCall : List Action :=
  [.call (.generate sampleSlot) (some (.drawn firstInstance)), .enter]

/-- The second answer: the id of the second secret with the formula of the first. -/
def mixedInstance : Instance where
  challengeId := "pm-t1-e1-00ddac6d4e3cb5d8296726dd"
  cnfText := "p cnf 3 1\n1 -3 2 0\n"
  planted := some [-1, -2, -3]

/-- The secret is not part of the cache key: inside `v2_pm_env` the formula drawn under
the legacy secret is served under the id of the V2 secret. -/
theorem other_secret_served : ¬ ∀ prim w₀ actions w, Start w₀ →
    Run (Step prim) w₀ actions w → Run (Run.Guarded (Step prim) (Right prim)) w₀ actions w := by
  intro h
  obtain ⟨w, hrun, hserved⟩ := @Run.exists_of_any _ _ (Step samplePrimitives)
    sampleWorld _ (fun _ _ _ hstep => hstep) switchedCall
    (p := fun w => decide (((Query.generate sampleSlot).cached samplePrimitives w.environ
        w.caches).result = some (.drawn mixedInstance)) &&
      decide ((Query.generate sampleSlot).direct samplePrimitives w.environ ≠
        some (.drawn mixedInstance))) (by decide +kernel)
  rw [Bool.and_eq_true, decide_eq_true_eq, decide_eq_true_eq] at hserved
  obtain ⟨hmixed, hdirect⟩ := hserved
  have hstep : Step samplePrimitives w (.call (.generate sampleSlot) (some (.drawn mixedInstance)))
      { w with caches := ((Query.generate sampleSlot).cached samplePrimitives w.environ
        w.caches).state } := if_pos hmixed
  -- the last step of the run that answers right throughout
  obtain ⟨t, hbefore, hlast⟩ :=
    (h samplePrimitives _ _ _ sampleWorld_start (hrun.snoc hstep)).split
  obtain ⟨-, hright⟩ := Run.single_iff.mp hlast
  have hsame : w = t := by
    have hcomputed := Run.foldlM_eq_some (fun _ _ _ hstep => hstep) hrun
    rw [Run.foldlM_eq_some (fun _ _ _ hstep => hstep.1) hbefore] at hcomputed
    exact (Option.some.inj hcomputed).symm
  subst hsame
  exact hdirect hright.symm

end Cathedral.Publisher.InstanceCaches
