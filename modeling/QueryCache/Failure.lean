import QueryCache.Duration

/-!
# Failures

What can go wrong in a shared cache, and what can go wrong in a session, with the wording
of each.
-/

namespace QueryCache

/-- Why a shared cache refused an operation. Keys are given by their written form. -/
inductive CacheFailure where
  | lockTimeout (cache key : String) (timeout : Duration)
  | interrupted (cache key : String)
  | backend (message : String)
  deriving DecidableEq, Inhabited

namespace CacheFailure

/-- The wording of a cache failure. -/
def message : CacheFailure → String
  | lockTimeout cache key timeout =>
    "Couldn't get a lock in " ++ timeout.display ++ " for the key " ++ key ++ " at the cache "
      ++ cache
  | interrupted cache key =>
    "Got interrupted while trying to acquire lock for key " ++ key ++ " at the cache " ++ cache
  | backend m => "Cache backend error: " ++ m

/-- Whether a lock was not released in time. -/
def isLockTimeout : CacheFailure → Bool
  | lockTimeout .. => true
  | _ => false

/-- Whether the wait for a lock was broken off. -/
def isInterrupted : CacheFailure → Bool
  | interrupted .. => true
  | _ => false

end CacheFailure

/-- Why a session, a query or a configuration failed. -/
inductive Failure where
  | cache (cause : CacheFailure)
  | query (message : String)
  | config (message : String)
  | closed
  | circular (statement : String)
  | outParamsNotCacheable (statement : String)
  deriving DecidableEq, Inhabited

namespace Failure

/-- The wording of a failure. -/
def message : Failure → String
  | cache cause => "Cache error: " ++ cause.message
  | query m => "Query error: " ++ m
  | config m => "Configuration error: " ++ m
  | closed => "Executor was closed."
  | circular s =>
    "Circular query: statement " ++ s ++ " is already being executed for the same key"
  | outParamsNotCacheable s =>
    "Caching stored procedures with OUT params is not supported. " ++
      "Please configure use_cache=false in " ++ s ++ " statement."

/-- Whether a shared cache is to blame. -/
def isCache : Failure → Bool
  | cache _ => true
  | _ => false

/-- Whether a lock was not released in time. -/
def isLockTimeout : Failure → Bool
  | cache cause => cause.isLockTimeout
  | _ => false

/-- Whether the statement itself failed. -/
def isQuery : Failure → Bool
  | query _ => true
  | _ => false

/-- Whether the configuration is to blame. -/
def isConfig : Failure → Bool
  | config _ => true
  | _ => false

/-- Whether the session was closed. -/
def isClosed : Failure → Bool
  | closed => true
  | _ => false

/-- Whether a query asked for its own result. -/
def isCircular : Failure → Bool
  | circular _ => true
  | _ => false

/-- Whether output parameters stood in the way of caching. -/
def isOutParamsNotCacheable : Failure → Bool
  | outParamsNotCacheable _ => true
  | _ => false

end Failure

end QueryCache
