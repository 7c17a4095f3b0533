import GatedRelay.Publish.Token

/-!
Calls for a token that come at the same time. Only the one that has the lock may look at the cache
or ask for a token; the others wait for the lock and have done nothing yet. Which of them is next,
when the replies come and how time passes is left open, and a call may be given up.
-/

namespace GatedRelay

/-- An exchange up to its next call, by a clock that stands still. -/
def Exchange.settle {α : Type} (now : Nat) : Exchange α → Exchange α
  | .done a => .done a
  | .call c next => .call c next
  | .look next => (next now).settle now

/-- A call that has the lock: what it found in the cache, when it got the lock, and what it asked
for since then. -/
structure TokenVisit where
  found : Option CachedToken
  start : Nat
  asked : List (Call × Reply)
  deriving DecidableEq

/-- A call that is over, with its result and the cache that it left. -/
structure TokenAnswer extends TokenVisit where
  finish : Nat
  result : Attempt TokenError (Option String)
  left : Option CachedToken

/-- A cache of tokens with its lock, and the calls that are over, in their order. -/
structure TokenDesk where
  url : String
  cache : Option CachedToken
  now : Nat
  visit : Option (TokenVisit × Exchange (Attempt TokenError (Option String) × Option CachedToken))
  answers : List TokenAnswer

inductive TokenTurn
  /-- One of the calls that wait takes the lock, if it is free. -/
  | enter
  | reply (r : Reply)
  | pass (nanos : Nat)
  /-- The call that has the lock is given up. -/
  | giveUp
  deriving DecidableEq

namespace TokenDesk

def opened (url : String) (now : Nat) : TokenDesk := ⟨url, none, now, none, []⟩

/-- The call that has the lock goes on until it has to wait for a reply or is over. -/
def goOn (d : TokenDesk) (v : TokenVisit)
    (x : Exchange (Attempt TokenError (Option String) × Option CachedToken)) : TokenDesk :=
  match x.settle d.now with
  | .done (result, cache) =>
    { d with
      cache := cache
      visit := none
      answers := d.answers ++ [⟨v, d.now, result, cache⟩] }
  | x => { d with visit := some (v, x) }

def take (d : TokenDesk) : TokenTurn → TokenDesk
  | .enter =>
    match d.visit with
    | none => d.goOn ⟨d.cache, d.now, []⟩ ((Credentials.metadata d.url).token d.cache)
    | some _ => d
  | .reply r =>
    match d.visit with
    | some (v, .call c next) => d.goOn { v with asked := v.asked ++ [(c, r)] } (next r)
    | _ => d
  | .pass nanos => { d with now := d.now + nanos }
  | .giveUp => { d with visit := none }

def run (d : TokenDesk) (turns : List TokenTurn) : TokenDesk := turns.foldl take d

end TokenDesk

end GatedRelay
