/-!
# Schema

The script that sets the database up. Events and users belong to the platform around us, so all
tables are created only where they are missing.
-/

namespace EventTickets.Sql

def schemaLines : List String := [
  "-- Ticketing schema.",
  "--",
  "-- `events` and `users` belong to the wider platform; the minimal shapes below",
  "-- are only created when they do not exist yet.",
  "",
  "CREATE TABLE IF NOT EXISTS events (",
  "    id BIGSERIAL PRIMARY KEY,",
  "    title TEXT NOT NULL,",
  "    created_at TIMESTAMPTZ NOT NULL DEFAULT now()",
  ");",
  "",
  "CREATE TABLE IF NOT EXISTS users (",
  "    id BIGSERIAL PRIMARY KEY,",
  "    telegram_id BIGINT,",
  "    first_name TEXT,",
  "    last_name TEXT,",
  "    username TEXT,",
  "    created_at TIMESTAMPTZ NOT NULL DEFAULT now()",
  ");",
  "",
  "CREATE TABLE IF NOT EXISTS ticket_products (",
  "    id UUID PRIMARY KEY,",
  "    event_id BIGINT NOT NULL REFERENCES events(id) ON DELETE CASCADE,",
  "    name TEXT NOT NULL DEFAULT '',",
  "    type TEXT NOT NULL CHECK (type IN ('SINGLE', 'GROUP2', 'GROUP10')),",
  "    price_cents BIGINT NOT NULL CHECK (price_cents >= 0),",
  "    inventory_limit INTEGER CHECK (inventory_limit IS NULL OR inventory_limit > 0),",
  "    sold_count INTEGER NOT NULL DEFAULT 0 CHECK (sold_count >= 0),",
  "    is_active BOOLEAN NOT NULL DEFAULT TRUE,",
  "    created_by BIGINT,",
  "    created_at TIMESTAMPTZ NOT NULL DEFAULT now(),",
  "    updated_at TIMESTAMPTZ NOT NULL DEFAULT now()",
  ");",
  "",
  "CREATE INDEX IF NOT EXISTS idx_ticket_products_event ON ticket_products(event_id, is_active);",
  "",
  "CREATE TABLE IF NOT EXISTS transfer_products (",
  "    id UUID PRIMARY KEY,",
  "    event_id BIGINT NOT NULL REFERENCES events(id) ON DELETE CASCADE,",
  "    name TEXT NOT NULL DEFAULT '',",
  "    direction TEXT NOT NULL CHECK (direction IN ('THERE', 'BACK', 'ROUNDTRIP')),",
  "    price_cents BIGINT NOT NULL CHECK (price_cents >= 0),",
  "    info_json JSONB NOT NULL DEFAULT '\x7b\x7d'::jsonb,",
  "    inventory_limit INTEGER CHECK (inventory_limit IS NULL OR inventory_limit > 0),",
  "    sold_count INTEGER NOT NULL DEFAULT 0 CHECK (sold_count >= 0),",
  "    is_active BOOLEAN NOT NULL DEFAULT TRUE,",
  "    created_by BIGINT,",
  "    created_at TIMESTAMPTZ NOT NULL DEFAULT now(),",
  "    updated_at TIMESTAMPTZ NOT NULL DEFAULT now()",
  ");",
  "",
  "CREATE INDEX IF NOT EXISTS idx_transfer_products_event " ++
    "ON transfer_products(event_id, is_active);",
  "",
  "CREATE TABLE IF NOT EXISTS promo_codes (",
  "    id UUID PRIMARY KEY,",
  "    code TEXT NOT NULL,",
  "    discount_type TEXT NOT NULL,",
  "    value BIGINT NOT NULL,",
  "    usage_limit INTEGER CHECK (usage_limit IS NULL OR usage_limit > 0),",
  "    used_count INTEGER NOT NULL DEFAULT 0 CHECK (used_count >= 0),",
  "    active_from TIMESTAMPTZ,",
  "    active_to TIMESTAMPTZ,",
  "    event_id BIGINT REFERENCES events(id) ON DELETE CASCADE,",
  "    is_active BOOLEAN NOT NULL DEFAULT TRUE,",
  "    created_by BIGINT,",
  "    created_at TIMESTAMPTZ NOT NULL DEFAULT now(),",
  "    updated_at TIMESTAMPTZ NOT NULL DEFAULT now()",
  ");",
  "",
  "CREATE UNIQUE INDEX IF NOT EXISTS idx_promo_codes_code ON promo_codes(upper(code));",
  "",
  "CREATE TABLE IF NOT EXISTS orders (",
  "    id UUID PRIMARY KEY,",
  "    user_id BIGINT NOT NULL,",
  "    event_id BIGINT NOT NULL REFERENCES events(id),",
  "    status TEXT NOT NULL CHECK (status IN ('PENDING', 'PAID', 'CANCELED', 'REDEEMED')),",
  "    payment_method TEXT NOT NULL CHECK (payment_method IN ('PHONE', 'USDT', 'PAYMENT_QR')),",
  "    payment_reference TEXT,",
  "    payment_notes TEXT,",
  "    promo_code_id UUID REFERENCES promo_codes(id) ON DELETE SET NULL,",
  "    subtotal_cents BIGINT NOT NULL,",
  "    discount_cents BIGINT NOT NULL DEFAULT 0,",
  "    total_cents BIGINT NOT NULL,",
  "    currency TEXT NOT NULL DEFAULT 'USD',",
  "    confirmed_at TIMESTAMPTZ,",
  "    confirmed_by BIGINT,",
  "    canceled_at TIMESTAMPTZ,",
  "    canceled_by BIGINT,",
  "    canceled_reason TEXT,",
  "    redeemed_at TIMESTAMPTZ,",
  "    created_at TIMESTAMPTZ NOT NULL DEFAULT now(),",
  "    updated_at TIMESTAMPTZ NOT NULL DEFAULT now()",
  ");",
  "",
  "CREATE INDEX IF NOT EXISTS idx_orders_created ON orders(created_at DESC);",
  "CREATE INDEX IF NOT EXISTS idx_orders_user ON orders(user_id, created_at DESC);",
  "CREATE INDEX IF NOT EXISTS idx_orders_event_status ON orders(event_id, status);",
  "",
  "CREATE TABLE IF NOT EXISTS order_items (",
  "    id BIGSERIAL PRIMARY KEY,",
  "    order_id UUID NOT NULL REFERENCES orders(id) ON DELETE CASCADE,",
  "    item_type TEXT NOT NULL CHECK (item_type IN ('TICKET', 'TRANSFER')),",
  "    product_id UUID NOT NULL,",
  "    product_ref TEXT NOT NULL,",
  "    quantity INTEGER NOT NULL CHECK (quantity > 0),",
  "    unit_price_cents BIGINT NOT NULL,",
  "    line_total_cents BIGINT NOT NULL,",
  "    meta_json JSONB NOT NULL DEFAULT '\x7b\x7d'::jsonb,",
  "    created_at TIMESTAMPTZ NOT NULL DEFAULT now()",
  ");",
  "",
  "CREATE INDEX IF NOT EXISTS idx_order_items_order ON order_items(order_id);",
  "",
  "CREATE TABLE IF NOT EXISTS tickets (",
  "    id UUID PRIMARY KEY,",
  "    order_id UUID NOT NULL REFERENCES orders(id) ON DELETE CASCADE,",
  "    user_id BIGINT NOT NULL,",
  "    event_id BIGINT NOT NULL,",
  "    ticket_type TEXT NOT NULL CHECK (ticket_type IN ('SINGLE', 'GROUP2', 'GROUP10')),",
  "    quantity INTEGER NOT NULL CHECK (quantity > 0),",
  "    qr_payload TEXT,",
  "    qr_payload_hash TEXT,",
  "    qr_issued_at TIMESTAMPTZ,",
  "    redeemed_at TIMESTAMPTZ,",
  "    redeemed_by BIGINT,",
  "    created_at TIMESTAMPTZ NOT NULL DEFAULT now()",
  ");",
  "",
  "CREATE INDEX IF NOT EXISTS idx_tickets_order ON tickets(order_id);",
  "CREATE INDEX IF NOT EXISTS idx_tickets_user ON tickets(user_id, created_at DESC);",
  "CREATE INDEX IF NOT EXISTS idx_tickets_redeemed ON tickets(event_id) " ++
    "WHERE redeemed_at IS NOT NULL;"]

def schemaScript : String := "\n".intercalate schemaLines

end EventTickets.Sql
