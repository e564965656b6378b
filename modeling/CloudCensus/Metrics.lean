import CloudCensus.Ledger

namespace CloudCensus.Metrics

def descriptions : List (String × String) := [
  ("pw_inventory_assets_listed_total", "Total number of assets listed, by content type"),
  ("pw_inventory_stream_errors_total",
    "Total number of failed asset listings, by content type and error kind"),
  ("pw_inventory_retries_total", "Total number of retried API calls, by method"),
  ("pw_inventory_rate_limiter_waits_total",
    "Total number of API calls that passed the rate limiter, by method"),
  ("pw_inventory_memo_hits_total", "Total number of memo cache hits, by cache"),
  ("pw_inventory_memo_misses_total", "Total number of memo cache misses, by cache"),
  ("pw_inventory_lookup_failures_total", "Total number of failed display name lookups, by lookup")]

def names : List String := descriptions.map (·.1)

end CloudCensus.Metrics
